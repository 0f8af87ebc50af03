import Handover.Proofs.WholeWords

/-!
# Flags that come back as they were written

A flag that is passed on is kept as its name and its value, without a mark of how it was written.
Written again it is the word that it was read from, but for a word that ends in its equals sign:
that one comes back as the name alone (`oneWord_cut`).

Where every argument is one flag and no flag that is passed on is given twice, the arguments that
are passed on come back in their order, each written again so (`parse_wordForWord`).
-/

namespace Handover

open Yaml

namespace StartCommand

/-! ## Single arguments -/

/-- An argument that is one word as it stands. -/
def IsPlain (part : String) : Prop := part ≠ "" ∧ Plain part.toList

instance : DecidablePred IsPlain := fun _ => inferInstanceAs (Decidable (_ ∧ _))

theorem tokenize_plain {parts : List String} (h : ∀ part ∈ parts, IsPlain part) :
    tokenize parts = parts :=
  tokenize_of_whole fun part hpart =>
    partWords_of_enclosed (h part hpart).1 (enclosed_of_plain (h part hpart).2 _)

/-! ## Words as names and values -/

/-- The name and the value in a word that is a flag. -/
def cut (word : String) : String × String := (Text.cutFirst? '=' word).getD (word, "")

/-- Whether a word is a flag that is passed on. -/
def passesOn (word : String) : Bool := isPassedOn (cut word).1

/-- Whether a word is a name and an equals sign behind it, without a value. -/
def EndsOpen (word : String) : Prop := word = joined ((cut word).1, "")

instance : DecidablePred EndsOpen := fun _ => inferInstanceAs (Decidable (_ = _))

/-- A word without the equals sign that nothing follows. -/
def bared (word : String) : String := if EndsOpen word then (cut word).1 else word

theorem cut_cases (word : String) :
    (∃ name value, '=' ∉ name.toList ∧ word = joined (name, value) ∧ cut word = (name, value))
      ∨ '=' ∉ word.toList ∧ cut word = (word, "") := by
  rw [cut]
  cases hcut : Text.cutFirst? '=' word with
  | none => exact .inr ⟨Text.cutFirst?_eq_none_iff.mp hcut, rfl⟩
  | some e =>
    obtain ⟨name, value⟩ := e
    obtain ⟨hword, hname⟩ := cutFirst?_joined_iff.mp hcut
    exact .inl ⟨name, value, hname, hword, rfl⟩

theorem equals_mem_joined (e : String × String) : '=' ∈ (joined e).toList := by
  simp [toList_joined]

theorem endsOpen_iff {word name value : String} (hword : word = joined (name, value))
    (hcut : cut word = (name, value)) : EndsOpen word ↔ value = "" := by
  rw [EndsOpen, hcut, hword, ← String.toList_inj, toList_joined, toList_joined,
    List.append_cancel_left_eq, List.cons.injEq, String.toList_inj]
  exact and_iff_right rfl

/-- A word comes back as it was written, but for an equals sign that nothing follows. -/
theorem oneWord_cut (word : String) : oneWord (cut word) = bared word := by
  obtain ⟨name, value, -, hword, hcut⟩ | ⟨-, hcut⟩ := cut_cases word
  · rw [bared, hcut, oneWord]
    by_cases hvalue : value = ""
    · rw [if_pos hvalue, if_pos ((endsOpen_iff hword hcut).mpr hvalue)]
    · rw [if_neg hvalue, if_neg (hvalue ∘ (endsOpen_iff hword hcut).mp)]
      exact hword.symm
  · rw [bared, hcut, oneWord, if_pos rfl, ite_self]

/-- Only a word without such an equals sign comes back as it was written. -/
theorem bared_eq_self_iff {word : String} : bared word = word ↔ ¬EndsOpen word := by
  rw [bared]
  by_cases hopen : EndsOpen word
  · refine iff_of_false (fun hsame => ?_) (not_not_intro hopen)
    rw [if_pos hopen] at hsame
    have hequals : '=' ∈ word.toList := hopen ▸ equals_mem_joined ((cut word).1, "")
    obtain ⟨name, value, hname, -, hcut⟩ | ⟨hword, -⟩ := cut_cases word
    · rw [← hsame, hcut] at hequals
      exact hname hequals
    · exact hword hequals
  · rw [if_neg hopen]
    exact iff_of_true rfl hopen

/-- Words that are all flags are read one by one. -/
theorem reads_flags {words : List String} (h : ∀ word ∈ words, isFlag word = true) :
    Reads words (words.map cut) := by
  induction words with
  | nil => exact .nil
  | cons word words ih =>
    obtain ⟨hflag, hwords⟩ := List.forall_mem_cons.mp h
    obtain ⟨name, value, hname, rfl, hcut⟩ | ⟨hword, hcut⟩ := cut_cases word
    · rw [List.map_cons, hcut]
      exact .joined hflag hname (ih hwords)
    · rw [List.map_cons, hcut]
      exact .alone hflag hword (.inr fun next hnext => hwords next (List.mem_of_mem_head? hnext))
        (ih hwords)

/-- What is written of the flags that are passed on, where each argument is a flag and none that is
passed on is given twice. -/
theorem toArgs_of_flags {parts words : List String} {flags : StartFlags}
    (hplain : ∀ part ∈ parts, IsPlain part) (hwords : Follows parts words)
    (hflags : ∀ word ∈ words, isFlag word = true)
    (honce : ((words.filter passesOn).map fun word => (cut word).1).Nodup)
    (h : parse parts = .ok flags) :
    flags.extra.toArgs = (words.filter passesOn).map bared := by
  obtain ⟨words', read, hwords', hread, hpassed⟩ := passedOn_of_parse h
  rw [tokenize_plain hplain] at hwords'
  obtain rfl := hwords.unique hwords'
  obtain rfl := hread.unique (reads_flags hflags)
  have hnames : ((words.map cut).map (·.1)).filter isPassedOn
      = (words.filter passesOn).map fun word => (cut word).1 := by
    rw [List.map_map, List.filter_map]
    rfl
  have hentries : flags.extra.entries = (words.filter passesOn).map cut := by
    rw [hpassed.eq_filter (hnames ▸ honce), List.filter_map]
    rfl
  rw [toArgs_eq, hentries, List.map_map]
  exact List.map_congr_left fun word _ => oneWord_cut word

end StartCommand

open StartCommand

/-- Where each argument is a flag and none that is passed on is given twice, those that are passed
on come back in their order, each as it was written unless it ends in an equals sign that nothing
follows. So they are handed to a StatefulSet. -/
theorem parse_wordForWord {parts words : List String} {flags : StartFlags}
    (hplain : ∀ part ∈ parts, IsPlain part) (hwords : Follows parts words)
    (hflags : ∀ word ∈ words, isFlag word = true)
    (honce : ((words.filter passesOn).map fun word => (cut word).1).Nodup)
    (h : parse parts = .ok flags) :
    flags.extra.toArgs = (words.filter passesOn).map bared
      ∧ (flags.extra.toArgs = words.filter passesOn ↔
        ∀ word ∈ words, passesOn word = true → ¬EndsOpen word)
      ∧ ∀ (o : ClusterObservation) (trust : TrustMap) (target : Target) (chart : Value),
        o.flags = flags → LegacyChart.values o trust target = .ok chart →
        chart.path? ["statefulset", "args"] = if words.filter passesOn = [] then none
          else some (.seq ((words.filter passesOn).map fun word => .text (bared word))) := by
  have hargs := toArgs_of_flags hplain hwords hflags honce h
  refine ⟨hargs, ?_, fun o trust target chart hobserved hchart => ?_⟩
  · have hsame := List.map_inj_left (l := words.filter passesOn) (f := bared) (g := id)
    rw [List.map_id] at hsame
    rw [hargs, hsame]
    simp only [List.mem_filter, and_imp, id, bared_eq_self_iff]
  · obtain rfl := hobserved
    have hentries : o.flags.extra.entries.map oneWord = (words.filter passesOn).map bared := by
      rw [← toArgs_eq, hargs]
    have hnone : o.flags.extra.entries = [] ↔ words.filter passesOn = [] := by
      rw [← List.map_eq_nil_iff (f := oneWord), hentries, List.map_eq_nil_iff]
    have htexts : (o.flags.extra.entries.map fun e => Value.text (oneWord e))
        = (words.filter passesOn).map fun word => .text (bared word) := by
      simpa [Function.comp_def] using congrArg (List.map Value.text) hentries
    simp only [LegacyChart.args_of_values hchart, hnone, htexts]

/-- Flags of every form, with a port among them that is not passed on. -/
theorem loneNode_wordForWord :
    ∃ o chart,
      parse ["start", "--x", "--cache=1=2", "--port=1", "--background", "--y=v", "--z="]
          = .ok o.flags
        ∧ LegacyChart.values o {} {} = .ok chart
        ∧ o.flags.extra.toArgs = ["--x", "--cache=1=2", "--background", "--y=v", "--z"]
        ∧ chart.path? ["statefulset", "args"] = some (.seq [.text "--x", .text "--cache=1=2",
          .text "--background", .text "--y=v", .text "--z"]) := by
  let words := ["--x", "--cache=1=2", "--port=1", "--background", "--y=v", "--z="]
  obtain ⟨inventory, o, -, -, -, hmade⟩ := LoneNode.exists_observed ("start" :: words)
    ["datadir"] { dataStores := [{ name := "datadir" }] }
    (fun o => do
      let _ ← LegacyChart.values o {} {}
      return decide (parse ("start" :: words) = .ok o.flags))
    true (by decide +kernel)
  obtain ⟨chart, hchart, hmade⟩ := Outcome.bind_eq_ok.mp hmade
  have hparse := of_decide_eq_true (Outcome.pure_eq_ok.mp hmade)
  obtain ⟨hargs, -, hvalues⟩ := parse_wordForWord (by decide +kernel)
    (follows_start words) (by decide +kernel) (by decide +kernel) hparse
  refine ⟨o, chart, hparse, hchart, hargs.trans (by decide +kernel), ?_⟩
  rw [hvalues o {} {} chart rfl hchart]
  rfl

/-- It is not so that every flag that is passed on comes back as it was written. -/
theorem not_always_wordForWord :
    ¬ ∀ (parts words : List String) (flags : StartFlags), (∀ part ∈ parts, IsPlain part) →
      Follows parts words → (∀ word ∈ words, isFlag word = true) →
      ((words.filter passesOn).map fun word => (cut word).1).Nodup → parse parts = .ok flags →
      flags.extra.toArgs = words.filter passesOn := by
  intro halways
  let words := ["--attrs=", "--cache=25%"]
  obtain ⟨flags, hflags⟩ :=
    Outcome.exists_of_isOk (x := parse ("start" :: words)) (by decide +kernel)
  have hplain : ∀ part ∈ "start" :: words, IsPlain part := by decide +kernel
  have hone : ∀ word ∈ words, isFlag word = true := by decide +kernel
  have honce : ((words.filter passesOn).map fun word => (cut word).1).Nodup := by decide +kernel
  have hkept := halways _ _ flags hplain (follows_start words) hone honce hflags
  rw [toArgs_of_flags hplain (follows_start words) hone honce hflags] at hkept
  exact absurd hkept (by decide +kernel)

end Handover
