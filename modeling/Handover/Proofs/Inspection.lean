import Handover.Inspection
import Handover.Proofs.Observation
import Handover.Proofs.WholeWords

/-!
# What an inspection sees

A command that is looked into is split twice: once into the parts of a container's command, and
then, as every such command, into words. A container runs with the parts as they are, so both agree
where splitting once more changes nothing. That is so without quotes (`tokenize_tokenize`), because
every blank in a word then stands in a substitution; and a shell that is given its script in single
quotes is split into the shell, its option and the script as it stands (`tokenize_shell`), whatever
quotes and substitutions the script leaves open (`inspection_asObserved`).
-/

namespace Handover

open Kubernetes

namespace StartCommand

/-! ## Commands of containers -/

/-- What a node is told by the command of its container: its flags, and the mode of failover that
they stand for. -/
def reading (parts : List String) : Outcome (StartFlags × WalFailover) := do
  let flags ← parse parts
  return (flags, ← WalFailover.classify flags.walFailover flags.storeCount)

/-- A command is read by its words alone. -/
theorem reading_congr {parts parts' : List String} (h : tokenize parts = tokenize parts') :
    reading parts = reading parts' := by
  rw [reading, reading, parse, parse, h]

/-- A node is observed with what is read from its container's command, and not observed when that
cannot be read. -/
theorem observeNode_reads {name : String} {claims : KeyMap String Claim} {index : Nat} {pod : Pod}
    {templates : List ClaimTemplate} {container : Container}
    (hcontainer : databaseContainer pod name = .ok container) :
    (∀ n, observeNode name claims index pod templates = .ok n →
        reading container.startCommand = .ok (n.flags, n.walFailover))
      ∧ ∀ failure, reading container.startCommand = .error failure →
        observeNode name claims index pod templates = .error failure := by
  constructor
  · intro n hn
    obtain ⟨container', hcontainer', hflags, hmode, -⟩ := observeNode_eq_ok.mp hn
    obtain rfl := Except.ok.inj (hcontainer.symm.trans hcontainer')
    rw [reading, hflags, Outcome.ok_bind, hmode]
    rfl
  · intro failure h
    rw [observeNode, hcontainer, Outcome.ok_bind]
    rcases Outcome.bind_eq_error.mp h with h | ⟨flags, hflags, h⟩
    · rw [h]
      rfl
    · rcases Outcome.bind_eq_error.mp h with h | ⟨mode, -, h⟩
      · rw [hflags, Outcome.ok_bind, h]
        rfl
      · cases h

/-! ## Splitting twice -/

theorem ne_nil_of_mem_scan {m : Mode} {cs word : List Char} (h : word ∈ (scan m cs).2) :
    word ≠ [] := by
  induction cs generalizing m with
  | nil => cases h
  | cons c cs ih =>
    rw [scan] at h
    cases hrole : m.role c with
    | mark => exact ih (by simpa [hrole] using h)
    | text => exact ih (by simpa [hrole] using h)
    | gap =>
      simp only [hrole] at h
      rcases List.mem_append.mp h with h | h
      · rw [finish_eq_filter] at h
        simpa using List.of_mem_filter h
      · exact ih h

theorem ne_empty_of_mem_partWords {part word : String} (h : word ∈ partWords part) : word ≠ "" := by
  obtain ⟨cs, hcs, rfl⟩ := List.mem_map.mp h
  have hne : cs ≠ [] := by
    rcases List.mem_append.mp hcs with hcs | hcs
    · rw [finish_eq_filter] at hcs
      simpa using List.of_mem_filter hcs
    · exact ne_nil_of_mem_scan hcs
  rwa [← String.toList_inj.ne, String.toList_ofList]

/-- Words of parts without quotes are words by themselves. -/
theorem tokenize_tokenize {parts : List String}
    (h : ∀ part ∈ parts, ∀ c ∈ part.toList, isQuote c = false) :
    tokenize (tokenize parts) = tokenize parts := by
  refine tokenize_of_whole fun word hword => ?_
  obtain ⟨part, hpart, hword⟩ := List.mem_flatMap.mp hword
  exact partWords_of_enclosed (ne_empty_of_mem_partWords hword)
    (enclosed_of_mem_partWords (h part hpart) hword)

/-- A script in single quotes, given to a shell. -/
def shell (script : String) : String := s!"/bin/bash -ecx '{script}'"

theorem partWords_shell {script : String} (h : '\'' ∉ script.toList) :
    partWords (shell script)
      = ["/bin/bash", "-ecx"] ++ (finish script.toList).map String.ofList := by
  have hfront : "/bin/bash -ecx '".toList
      = "/bin/bash".toList ++ ' ' :: ("-ecx".toList ++ [' ', '\'']) := by decide
  have hchars : (shell script).toList = "/bin/bash".toList
      ++ ' ' :: ("-ecx".toList ++ ' ' :: '\'' :: (script.toList ++ ['\''])) := by
    have hshell : shell script = "/bin/bash -ecx '" ++ script ++ "'" := rfl
    rw [hshell, String.toList_append, String.toList_append, hfront, List.append_assoc,
      List.append_assoc]
    rfl
  have hbash : Mode.Takes {} "/bin/bash".toList "/bin/bash".toList {} :=
    Mode.takes_plain (wellFormed_plain (by decide))
  have hoption : Mode.Takes {} "-ecx".toList "-ecx".toList {} :=
    Mode.takes_plain (wellFormed_plain (by decide))
  rw [partWords, hchars, wordsOf_before hbash isBlank_space, wordsOf_before hoption isBlank_space,
    wordsOf_last (Mode.takes_run rfl h)]
  rfl

/-- The parts that a shell's command is split into have the words of the shell, its option and the
script, though an empty script is no part. -/
theorem tokenize_shell {script : String} (h : '\'' ∉ script.toList) :
    tokenize (tokenize [shell script]) = tokenize ["/bin/bash", "-ecx", script] := by
  have hparts : tokenize [shell script]
      = ["/bin/bash", "-ecx"] ++ (finish script.toList).map String.ofList := by
    rw [tokenize, List.flatMap_singleton, partWords_shell h]
  have hscript : tokenize ((finish script.toList).map String.ofList) = tokenize [script] := by
    rw [finish_eq_filter]
    by_cases hempty : script.toList = []
    · obtain rfl := String.toList_eq_nil_iff.mp hempty
      rfl
    · rw [List.filter_cons_of_pos (by simpa using hempty), List.filter_nil, List.map_singleton,
        String.ofList_toList]
  rw [hparts, tokenize, List.flatMap_append, ← tokenize, ← tokenize, hscript]
  rfl

end StartCommand

open StartCommand

/-! ## Reports -/

theorem Json.texts_injective : Function.Injective Json.texts := by
  intro xs ys h
  have hmap : xs.map Json.text = ys.map Json.text := by simpa [Json.texts] using h
  exact List.map_injective_iff.mpr (fun _ _ => Json.text.inj) hmap

theorem Json.text?_injective : Function.Injective Json.text? := by
  rintro (_ | a) (_ | b) h
  · rfl
  · cases h
  · cases h
  · exact congrArg some (Json.text.inj h)

theorem ExtraFlags.toJson_injective : Function.Injective ExtraFlags.toJson := by
  intro a b h
  have hmap : a.entries.map (fun e => (e.1, Json.text e.2))
      = b.entries.map fun e => (e.1, Json.text e.2) := Json.object.inj h
  refine ExtraFlags.ext_entries (List.map_injective_iff.mpr (fun e e' heq => ?_) hmap)
  obtain ⟨hname, hvalue⟩ := Prod.mk.inj heq
  exact Prod.ext hname (Json.text.inj hvalue)

/-- Every field of the flags can be told from their report. -/
theorem StartFlags.toJson_injective : Function.Injective StartFlags.toJson := by
  intro f g h
  simp only [StartFlags.toJson, Json.object.injEq, List.cons.injEq, Prod.mk.injEq, true_and,
    and_true] at h
  obtain ⟨hsql, hgrpc, hhttp, hjoin, hinsecure, hlocality, hwal, hstores, hlog, hextra⟩ := h
  have hport {a b : UInt16} (h : Json.nat a.toNat = Json.nat b.toNat) : a = b :=
    UInt16.toNat_inj.mp (Int.ofNat.inj (Json.int.inj h))
  have htiers : f.locality = g.locality := by
    refine List.map_injective_iff.mpr (fun e e' heq => ?_) (Json.array.inj hlocality)
    have hpair := Json.texts_injective heq
    simpa [Prod.ext_iff] using hpair
  cases f
  cases g
  rw [StartFlags.mk.injEq]
  exact ⟨hport hsql, hport hgrpc, hport hhttp, Json.texts_injective hjoin, Json.bool.inj hinsecure,
    htiers, Json.text?_injective hwal, Json.texts_injective hstores, Json.text?_injective hlog,
    ExtraFlags.toJson_injective hextra⟩

/-- So can the mode of failover. -/
theorem WalFailover.toJson_injective : Function.Injective WalFailover.toJson := by
  intro a b h
  cases a <;> cases b <;> simp_all [WalFailover.toJson]

namespace Inspection

/-- What is read from a command, as it is reported. -/
def document (read : StartFlags × WalFailover) : Json :=
  .object [("flags", read.1.toJson), ("wal_failover", read.2.toJson)]

/-- What was read can be told from the document that is laid out. -/
theorem document_injective : Function.Injective document := by
  intro read read' h
  simp only [document, Json.object.injEq, List.cons.injEq, Prod.mk.injEq, true_and, and_true] at h
  exact Prod.ext (StartFlags.toJson_injective h.1) (WalFailover.toJson_injective h.2)

/-- A command that is looked into is seen as a container sees its parts: the flags and the mode are
the same, or else the failure, and the report is on them. -/
structure SeesAs (text : String) (parts : List String) : Prop where
  interpret : interpret text = reading parts
  command : command text = (reading parts).map fun read => (document read).pretty

theorem seesAs_of_tokenize {text : String} {parts : List String}
    (h : tokenize (tokenize [text]) = tokenize parts) : SeesAs text parts := by
  have hsame : Inspection.interpret text = reading parts := reading_congr h
  refine ⟨hsame, ?_⟩
  rw [Inspection.command, hsame]
  cases reading parts <;> rfl

end Inspection

/-- An inspection sees what is observed. A shell's command is seen as the container's command that
has the script for a part, whatever the script leaves open; a command without quotes is seen as the
one part that it is, and its words are words by themselves. What is reported tells the flags and the
mode. -/
theorem inspection_asObserved :
    (∀ script : String, '\'' ∉ script.toList →
        Inspection.SeesAs s!"/bin/bash -ecx '{script}'" ["/bin/bash", "-ecx", script])
      ∧ (∀ command : String, (∀ c ∈ command.toList, isQuote c = false) →
        Inspection.SeesAs command [command])
      ∧ (∀ parts : List String, (∀ part ∈ parts, ∀ c ∈ part.toList, isQuote c = false) →
        tokenize (tokenize parts) = tokenize parts)
      ∧ Function.Injective Inspection.document
      ∧ ∀ (name : String) (claims : KeyMap String Claim) (index : Nat) (pod : Pod)
          (templates : List ClaimTemplate) (container : Container),
        databaseContainer pod name = .ok container →
        (∀ n, observeNode name claims index pod templates = .ok n →
            reading container.startCommand = .ok (n.flags, n.walFailover))
          ∧ ∀ failure, reading container.startCommand = .error failure →
            observeNode name claims index pod templates = .error failure := by
  refine ⟨fun script h => Inspection.seesAs_of_tokenize (tokenize_shell h), fun command h => ?_,
    fun parts => tokenize_tokenize, Inspection.document_injective,
    fun _ _ _ _ _ _ => observeNode_reads⟩
  exact Inspection.seesAs_of_tokenize (tokenize_tokenize (by simpa using h))

/-- A script that leaves a double quote and a substitution open is seen as it is run, and so are a
command that is refused and the container that would be started by it. -/
theorem inspection_openScript :
    (∃ flags, Inspection.interpret "/bin/bash -ecx 'cockroach start --attrs=$(a b --host=\"c d'"
          = .ok (flags, .disabled)
        ∧ reading ["/bin/bash", "-ecx", "cockroach start --attrs=$(a b --host=\"c d"]
          = .ok (flags, .disabled)
        ∧ flags.extra.entries = [("--attrs", "$(a b --host=\"c d")])
      ∧ Inspection.command "start --wal-failover=path=a"
        = .error (.parse "--wal-failover" (.relativeFailoverPath "a"))
      ∧ observeNode "" .empty 0 { spec := some { containers := [
            { args := some ["start --wal-failover=path=a"] }] } } []
        = .error (.parse "--wal-failover" (.relativeFailoverPath "a")) := by
  obtain ⟨hshell, hcommand, -, -, hcontainer⟩ := inspection_asObserved
  have hscript := hshell "cockroach start --attrs=$(a b --host=\"c d" (by decide)
  have hread : (reading ["/bin/bash", "-ecx", "cockroach start --attrs=$(a b --host=\"c d"]).map
      (fun read => (read.2, read.1.extra.entries))
      = .ok (.disabled, [("--attrs", "$(a b --host=\"c d")]) := by decide +kernel
  obtain ⟨⟨flags, mode⟩, hflags, heq⟩ := Outcome.map_eq_ok.mp hread
  obtain ⟨rfl, hextra⟩ := Prod.mk.inj heq
  have hrefused : reading ["start --wal-failover=path=a"]
      = .error (.parse "--wal-failover" (.relativeFailoverPath "a")) := by decide +kernel
  have hplain : ("start --wal-failover=path=a".toList.all fun c => !isQuote c) = true := by decide
  have hseen := hcommand "start --wal-failover=path=a" fun c hc => by
    simpa using List.all_eq_true.mp hplain c hc
  refine ⟨⟨flags, hscript.interpret.trans hflags, hflags, hextra⟩, ?_, ?_⟩
  · rw [hseen.command, hrefused]
    rfl
  · exact (hcontainer "" .empty 0 _ [] { args := some ["start --wal-failover=path=a"] } rfl).2 _
      hrefused

end Handover
