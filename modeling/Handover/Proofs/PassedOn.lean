import Handover.Proofs.ChartValues
import Handover.Proofs.CrdbNodes
import Handover.Proofs.OperatorCluster
import Handover.Proofs.WordsRead
import Mathlib.Data.List.Nodup

/-!
# Flags that are passed on

Of the flags that are read of a start command, those without a meaning here go on to the target.
What is passed on of what was read is settled by its names and values (`PassedOn`): each name once,
in the order of the first occurrences, with the value of its last one.

One flag more keeps the extra flags so (`PassedOn.add`), and by induction a whole start command
does (`addAll_keeps`). Both targets are given just these flags, except that a CrdbNode is told
of failover among stores by a flag behind them (`parse_passedOn`).
-/

namespace Handover

open Kubernetes Manifest Yaml

namespace StartCommand

/-! ## What is passed on -/

/-- Flags that are given a meaning of their own. -/
def interpretedFlags : List String :=
  ["--port", "--sql-addr", "--listen-addr", "--http-port", "--http-addr", "--join", "--insecure",
    "--locality", "--wal-failover", "--store", "-s", "--log-config-file"]

/-- Whether a flag has no meaning of its own and is not dropped either. -/
def isPassedOn (name : String) : Bool :=
  !interpretedFlags.contains name && !droppedFlags.contains name

/-- No later entry has the name of this one. -/
def IsLast (read : List (String × String)) (e : String × String) : Prop :=
  ∃ before after, read = before ++ e :: after ∧ ∀ e' ∈ after, e'.1 ≠ e.1

/-- Entries pass on what was read: the names that are passed on, each once and in the order of
their first occurrences, each with the value of its last one. -/
structure PassedOn (read entries : List (String × String)) : Prop where
  names : entries.map (·.1) = ((read.map (·.1)).filter isPassedOn).eraseDups
  last : ∀ e ∈ entries, IsLast read e

theorem IsLast.append {read : List (String × String)} {e e' : String × String}
    (h : IsLast read e) (hne : e'.1 ≠ e.1) : IsLast (read ++ [e']) e := by
  obtain ⟨before, after, rfl, hafter⟩ := h
  refine ⟨before, after ++ [e'], by simp, ?_⟩
  rw [List.forall_mem_append]
  exact ⟨hafter, by simpa using hne⟩

theorem PassedOn.mem_names_iff {read entries : List (String × String)} (h : PassedOn read entries)
    {name : String} :
    name ∈ entries.map (·.1) ↔ name ∈ read.map (·.1) ∧ isPassedOn name = true := by
  rw [h.names, List.mem_eraseDups, List.mem_filter]

theorem PassedOn.mem {read entries : List (String × String)} (h : PassedOn read entries)
    {e : String × String} (he : e ∈ entries) : e ∈ read ∧ isPassedOn e.1 = true := by
  obtain ⟨before, after, hread, -⟩ := h.last e he
  exact ⟨hread ▸ by simp, (h.mem_names_iff.mp (List.mem_map_of_mem he)).2⟩

/-! ### Putting a flag -/

variable {name value : String} {read entries : List (String × String)}

/-- A name that is there keeps its place. -/
theorem names_setFlag_of_mem (h : name ∈ entries.map (·.1)) :
    (setFlag name value entries).map (·.1) = entries.map (·.1) := by
  induction entries with
  | nil => cases h
  | cons e es ih =>
    rw [setFlag]
    by_cases he : e.1 = name
    · rw [if_pos he, List.map_cons, List.map_cons, he]
    · rw [if_neg he, List.map_cons, List.map_cons,
        ih ((List.mem_cons.mp h).resolve_left (Ne.symm he))]

/-- A new name goes to the end. -/
theorem setFlag_of_notMem (h : name ∉ entries.map (·.1)) :
    setFlag name value entries = entries ++ [(name, value)] := by
  induction entries with
  | nil => rfl
  | cons e es ih =>
    rw [List.map_cons, List.mem_cons, not_or] at h
    rw [setFlag, if_neg (Ne.symm h.1), ih h.2, List.cons_append]

/-- Where names are distinct, what is put replaces every entry of its name. -/
theorem mem_setFlag {e : String × String} (hnodup : (entries.map (·.1)).Nodup)
    (h : e ∈ setFlag name value entries) : e = (name, value) ∨ e ∈ entries ∧ e.1 ≠ name := by
  induction entries with
  | nil => exact .inl (List.mem_singleton.mp h)
  | cons d ds ih =>
    obtain ⟨hd, hds⟩ := List.nodup_cons.mp hnodup
    rw [setFlag] at h
    by_cases hname : d.1 = name
    · rw [if_pos hname] at h
      refine (List.mem_cons.mp h).imp_right fun he => ⟨List.mem_cons_of_mem d he, fun heq => ?_⟩
      exact hd (List.mem_map.mpr ⟨e, he, heq.trans hname.symm⟩)
    · rw [if_neg hname] at h
      rcases List.mem_cons.mp h with rfl | he
      · exact .inr ⟨List.mem_cons_self, hname⟩
      · rcases ih hds he with hnew | ⟨he, hne⟩
        · exact .inl hnew
        · exact .inr ⟨List.mem_cons_of_mem d he, hne⟩

/-! ### One flag more -/

theorem eraseDups_concat (names : List String) (name : String) :
    (names ++ [name]).eraseDups
      = if name ∈ names then names.eraseDups else names.eraseDups ++ [name] := by
  have hone : [name].eraseDups = [name] := by rw [List.eraseDups_cons]; rfl
  rw [List.eraseDups_append]
  by_cases h : name ∈ names <;> simp [List.removeAll, h, hone]

theorem PassedOn.set (h : PassedOn read entries) (hnodup : (entries.map (·.1)).Nodup)
    (hname : isPassedOn name = true) :
    PassedOn (read ++ [(name, value)]) (setFlag name value entries) where
  names := by
    have hread : name ∈ entries.map (·.1) ↔ name ∈ (read.map (·.1)).filter isPassedOn := by
      rw [h.mem_names_iff, List.mem_filter]
    have hnew : ((read ++ [(name, value)]).map (·.1)).filter isPassedOn
        = (read.map (·.1)).filter isPassedOn ++ [name] := by simp [hname]
    rw [hnew, eraseDups_concat, ← h.names]
    by_cases hold : name ∈ entries.map (·.1)
    · rw [if_pos (hread.mp hold), names_setFlag_of_mem hold]
    · rw [if_neg (hold ∘ hread.mpr), setFlag_of_notMem hold, List.map_append]
      rfl
  last e he := by
    rcases mem_setFlag hnodup he with rfl | ⟨he, hne⟩
    · exact ⟨read, [], rfl, nofun⟩
    · exact (h.last e he).append (Ne.symm hne)

theorem PassedOn.skip (h : PassedOn read entries) (hname : isPassedOn name = false) :
    PassedOn (read ++ [(name, value)]) entries where
  names := by simp [h.names, hname]
  last e he := by
    have hpassed := (h.mem_names_iff.mp (List.mem_map_of_mem he)).2
    refine (h.last e he).append ?_
    rintro rfl
    cases hname.symm.trans hpassed

/-- What one more flag does to those that are passed on. -/
theorem extra_of_addFlag {s s' : Settled} (h : s.addFlag name value = .ok s') :
    s'.extra = if isPassedOn name then s.extra.insert name value else s.extra := by
  have hplain {s₁ : Settled} (hname : isPassedOn name = false)
      (h : (.ok s₁ : Outcome Settled) = .ok s') (hs : s₁.extra = s.extra) :
      s'.extra = if isPassedOn name then s.extra.insert name value else s.extra := by
    rw [← Except.ok.inj h, hname, hs]
    rfl
  have hread {α : Type} {x : Outcome α} {f : α → Settled} (hname : isPassedOn name = false)
      (h : (do return f (← x)) = .ok s') (hf : ∀ a, (f a).extra = s.extra) :
      s'.extra = if isPassedOn name then s.extra.insert name value else s.extra := by
    obtain ⟨a, -, h⟩ := Outcome.bind_eq_ok.mp h
    exact hplain hname h (hf a)
  unfold Settled.addFlag at h
  split at h
  case h_13 hport hsql hlisten hhttp haddr hjoin hinsecure hlocality hwal hstore hs hlog =>
    have hother : interpretedFlags.contains name = false := by
      simpa [interpretedFlags] using ⟨hport, hsql, hlisten, hhttp, haddr, hjoin, hinsecure,
        hlocality, hwal, hstore, hs, hlog⟩
    rw [isPassedOn, hother, Bool.not_false, Bool.true_and]
    cases hdropped : droppedFlags.contains name with
    | true =>
      rw [hdropped] at h
      exact congrArg Settled.extra (Except.ok.inj h).symm
    | false =>
      rw [hdropped] at h
      exact congrArg Settled.extra (Except.ok.inj h).symm
  -- a flag with a meaning settles a field of its own
  all_goals first
    | exact hplain (by decide) h rfl
    | exact hread (by decide) h fun _ => rfl

theorem PassedOn.add {s s' : Settled} (h : PassedOn read s.extra.entries)
    (hadd : s.addFlag name value = .ok s') :
    PassedOn (read ++ [(name, value)]) s'.extra.entries := by
  rw [extra_of_addFlag hadd]
  cases hname : isPassedOn name with
  | true => exact h.set s.extra.nodup hname
  | false => exact h.skip hname

/-! ### Where no name is given twice -/

theorem eraseDups_of_nodup {names : List String} (h : names.Nodup) : names.eraseDups = names := by
  induction names with
  | nil => rfl
  | cons name names ih =>
    obtain ⟨hname, hnames⟩ := List.nodup_cons.mp h
    have hothers : names.filter (fun other => !other == name) = names := by
      refine List.filter_eq_self.mpr fun other hother => ?_
      have hne : other ≠ name := fun heq => hname (heq ▸ hother)
      simpa using hne
    rw [List.eraseDups_cons, hothers, ih hnames]

/-- Where no name that is passed on is given twice, what is passed on is what was read, without the
names that are not passed on. -/
theorem PassedOn.eq_filter (h : PassedOn read entries)
    (honce : ((read.map (·.1)).filter isPassedOn).Nodup) :
    entries = read.filter fun e => isPassedOn e.1 := by
  have hfilter : (read.filter fun e => isPassedOn e.1).map (·.1)
      = (read.map (·.1)).filter isPassedOn := by
    rw [List.filter_map]
    rfl
  have hnames : entries.map (·.1) = (read.filter fun e => isPassedOn e.1).map (·.1) := by
    rw [h.names, eraseDups_of_nodup honce, hfilter]
  have hmem {e : String × String} (he : e ∈ entries) :
      e ∈ read.filter fun e => isPassedOn e.1 := List.mem_filter.mpr (h.mem he)
  refine List.ext_getElem (by simpa using congrArg List.length hnames) fun i hi hi' => ?_
  -- the entries at one place have one name, and each name stands for one entry
  have hi₁ : i < (entries.map (·.1)).length := by rwa [List.length_map]
  have hname := List.getElem_of_eq hnames hi₁
  rw [List.getElem_map, List.getElem_map] at hname
  exact List.inj_on_of_nodup_map (hfilter ▸ honce) (hmem (List.getElem_mem hi))
    (List.getElem_mem hi') hname

/-! ### A whole start command -/

/-- What is known of the flags so far, and stays known with one flag more, is known of all flags in
the end. -/
theorem addAll_keeps {P : List (String × String) → Settled → Prop}
    (step : ∀ {seen s s' name value}, P seen s → s.addFlag name value = .ok s' →
      P (seen ++ [(name, value)]) s')
    {seen : List (String × String)} {s s' : Settled} (h : P seen s)
    (hadd : (read.map fun e => .flag e.1 e.2).foldlM Settled.add s = .ok s') :
    P (seen ++ read) s' := by
  induction read generalizing seen s with
  | nil =>
    obtain rfl := Outcome.pure_eq_ok.mp hadd
    rwa [List.append_nil]
  | cons e read ih =>
    rw [List.map_cons, List.foldlM_cons] at hadd
    obtain ⟨s₁, hfirst, hadd⟩ := Outcome.bind_eq_ok.mp hadd
    rw [List.append_cons]
    exact ih (step h hfirst) hadd

/-- A word that belongs to no flag is never accepted. -/
theorem exists_read_of_addAll {os : List Occurrence} {s s' : Settled}
    (h : os.foldlM Settled.add s = .ok s') :
    ∃ read : List (String × String), os = read.map fun e => .flag e.1 e.2 := by
  induction os generalizing s with
  | nil => exact ⟨[], rfl⟩
  | cons occurrence os ih =>
    rw [List.foldlM_cons] at h
    obtain ⟨s₁, hfirst, h⟩ := Outcome.bind_eq_ok.mp h
    obtain ⟨read, rfl⟩ := ih h
    cases occurrence with
    | flag name value => exact ⟨(name, value) :: read, rfl⟩
    | stray word => cases hfirst

theorem parse_eq_ok {parts : List String} {flags : StartFlags} :
    parse parts = .ok flags ↔
      ∃ words settled, Follows (tokenize parts) words
        ∧ (occurrences words).foldlM Settled.add {} = .ok settled ∧ settled.flags = flags := by
  simp only [parse, Outcome.bind_eq_ok, Outcome.pure_eq_ok, follows_iff, exists_eq_left',
    exists_and_left]

/-- What an accepted command settles is settled flag by flag. -/
theorem exists_settled_of_parse {parts words : List String} {flags : StartFlags}
    (hwords : Follows (tokenize parts) words) (hread : Reads words read)
    (h : parse parts = .ok flags) :
    ∃ settled, settled.flags = flags
      ∧ (read.map fun e => .flag e.1 e.2).foldlM Settled.add {} = .ok settled := by
  obtain ⟨words', settled, hwords', hsettled, hflags⟩ := parse_eq_ok.mp h
  obtain rfl := hwords.unique hwords'
  exact ⟨settled, hflags, reads_iff.mp hread ▸ hsettled⟩

theorem passedOn_of_parse {parts : List String} {flags : StartFlags}
    (h : parse parts = .ok flags) :
    ∃ words read, Follows (tokenize parts) words ∧ Reads words read
      ∧ PassedOn read flags.extra.entries := by
  obtain ⟨words, settled, hwords, hsettled, rfl⟩ := parse_eq_ok.mp h
  obtain ⟨read, hread⟩ := exists_read_of_addAll hsettled
  rw [hread] at hsettled
  have hstart : PassedOn [] ({} : Settled).extra.entries := ⟨rfl, nofun⟩
  have hpassed : PassedOn ([] ++ read) settled.extra.entries :=
    addAll_keeps (P := fun read s => PassedOn read s.extra.entries) PassedOn.add hstart hsettled
  exact ⟨words, read, hwords, reads_iff.mpr hread, hpassed⟩

/-- A flag with a meaning of its own, or one that is dropped, is not among those passed on. -/
theorem notMem_extra_of_parse {parts : List String} {flags : StartFlags}
    (h : parse parts = .ok flags) (hname : isPassedOn name = false) :
    name ∉ flags.extra.entries.map (·.1) := by
  obtain ⟨words, read, -, -, hpassed⟩ := passedOn_of_parse h
  intro hmem
  cases hname.symm.trans (hpassed.mem_names_iff.mp hmem).2

/-- A flag with its value as one word. -/
def oneWord (e : String × String) : String := if e.2 = "" then e.1 else s!"{e.1}={e.2}"

theorem toArgs_eq (flags : ExtraFlags) : flags.toArgs = flags.entries.map oneWord := by
  rw [ExtraFlags.toArgs]
  refine List.map_congr_left fun e _ => ?_
  simp [oneWord, String.isEmpty_iff]

end StartCommand

/-! ## The flags of the targets -/

namespace CrdbNodes

theorem flags_of_node {o : ClusterObservation} {n : NodeObservation} {trust : TrustMap}
    {target : Target} {c : CrdbNode} (h : node o n trust target = .ok c) :
    c.spec.flags = nodeFlags n := by
  obtain ⟨stores, -, h⟩ := Outcome.bind_eq_ok.mp h
  obtain rfl := Outcome.pure_eq_ok.mp h
  rfl

/-- The flags of a CrdbNode are those that are passed on, and failover among stores. -/
theorem entries_nodeFlags {n : NodeObservation}
    (h : WalFailover.flag ∉ n.flags.extra.entries.map (·.1)) :
    (nodeFlags n).entries = n.flags.extra.entries
      ++ if n.walFailover = .amongStores then [("--wal-failover", "among-stores")] else [] := by
  rw [nodeFlags]
  by_cases hmode : n.walFailover = .amongStores
  · rw [if_pos hmode, if_pos hmode]
    exact StartCommand.setFlag_of_notMem h
  · rw [if_neg hmode, if_neg hmode, List.append_nil]

end CrdbNodes

namespace LegacyChart

open Manifest.Entries

variable {o : ClusterObservation} {trust : TrustMap} {target : Target} {chart : Value}

theorem lookup_args_podValues :
    Value.lookup "args" (podValues o)
      = if o.flags.extra.entries = [] then none
        else some (.seq (o.flags.extra.entries.map fun e => .text (StartCommand.oneWord e))) := by
  have hwritten : (Codec.list .text).write o.flags.extra.toArgs
      = .seq (o.flags.extra.entries.map fun e => .text (StartCommand.oneWord e)) := by
    rw [StartCommand.toArgs_eq]
    exact congrArg Value.seq (List.map_map)
  simp [podValues, lookup_putEntries, lookup_putObject?_of_ne, putObject, putNumber,
    lookup_put_of_ne, lookup_put, lookup_nil, hwritten, isVoid]

theorem args_of_values (h : values o trust target = .ok chart) :
    chart.path? ["statefulset", "args"]
      = if o.flags.extra.entries = [] then none
        else some (.seq (o.flags.extra.entries.map fun e => .text (StartCommand.oneWord e))) := by
  obtain ⟨stores, -, -, -, -, -, -, hpods⟩ := values_sections h
  exact (path?_of_section _ "args" hpods).trans lookup_args_podValues

end LegacyChart

/-- Of an accepted start command, what its words say is read flag by flag, and those flags that
have no meaning here and are not dropped are passed on: each once, in the order of their first
occurrences, with the value of the last one. A CrdbNode is given just these, with failover among
stores behind them, and a StatefulSet one argument for each of them. -/
theorem parse_passedOn {parts : List String} {flags : StartFlags}
    (h : StartCommand.parse parts = .ok flags) :
    (∃ words read, StartCommand.Follows (StartCommand.tokenize parts) words
        ∧ StartCommand.Reads words read)
      ∧ (∀ words read, StartCommand.Follows (StartCommand.tokenize parts) words →
        StartCommand.Reads words read → StartCommand.PassedOn read flags.extra.entries)
      ∧ (∀ (o : ClusterObservation) (n : NodeObservation) (trust : TrustMap) (target : Target)
          (c : CrdbNode), n.flags = flags → CrdbNodes.node o n trust target = .ok c →
        c.spec.flags.entries = flags.extra.entries
          ++ if n.walFailover = .amongStores then [("--wal-failover", "among-stores")] else [])
      ∧ ∀ (o : ClusterObservation) (trust : TrustMap) (target : Target) (chart : Value),
        o.flags = flags → LegacyChart.values o trust target = .ok chart →
        chart.path? ["statefulset", "args"] = if flags.extra.entries = [] then none
          else some (.seq (flags.extra.entries.map fun e => .text (StartCommand.oneWord e))) := by
  obtain ⟨words, read, hwords, hread, hpassed⟩ := StartCommand.passedOn_of_parse h
  refine ⟨⟨words, read, hwords, hread⟩, fun words' read' hwords' hread' => ?_,
    fun o n trust target c hflags hc => ?_, fun o trust target chart hflags hchart => ?_⟩
  · obtain rfl := (StartCommand.follows_iff.mp hwords).symm.trans
      (StartCommand.follows_iff.mp hwords')
    exact hread.unique hread' ▸ hpassed
  · obtain rfl := hflags
    rw [CrdbNodes.flags_of_node hc]
    exact CrdbNodes.entries_nodeFlags (StartCommand.notMem_extra_of_parse h (by decide))
  · obtain rfl := hflags
    exact LegacyChart.args_of_values hchart

/-- A node with two stores and failover among them, whose cache is set twice. -/
theorem loneNode_passedOn :
    ∃ o c chart,
      StartCommand.parse ["start --store=/d --store=/e --cache 10% --x --cache=20%",
          "--wal-failover", "among-stores"] = .ok o.first.flags
        ∧ CrdbNodes.node o o.first {} {} = .ok c ∧ LegacyChart.values o {} {} = .ok chart
        ∧ StartCommand.PassedOn [("--store", "/d"), ("--store", "/e"), ("--cache", "10%"),
            ("--x", ""), ("--cache", "20%"), ("--wal-failover", "among-stores")]
          o.first.flags.extra.entries
        ∧ c.spec.flags.entries
          = [("--cache", "20%"), ("--x", ""), ("--wal-failover", "among-stores")]
        ∧ chart.path? ["statefulset", "args"] = some (.seq [.text "--cache=20%", .text "--x"]) := by
  let parts := ["start --store=/d --store=/e --cache 10% --x --cache=20%", "--wal-failover",
    "among-stores"]
  let words := ["--store=/d", "--store=/e", "--cache", "10%", "--x", "--cache=20%",
    "--wal-failover", "among-stores"]
  obtain ⟨inventory, o, -, -, -, hmade⟩ := LoneNode.exists_observed parts
    ["d", "e"] { dataStores := [{ name := "d" }, { name := "e" }] }
    (fun o => do
      let _ ← CrdbNodes.node o o.first {} {}
      let _ ← LegacyChart.values o {} {}
      return decide (StartCommand.parse parts = .ok o.first.flags
        ∧ o.first.walFailover = .amongStores
        ∧ o.first.flags.extra.entries = [("--cache", "20%"), ("--x", "")]))
    true (by decide +kernel)
  obtain ⟨c, hc, hmade⟩ := Outcome.bind_eq_ok.mp hmade
  obtain ⟨chart, hchart, hmade⟩ := Outcome.bind_eq_ok.mp hmade
  obtain ⟨hparse, hmode, hentries⟩ := of_decide_eq_true (Outcome.pure_eq_ok.mp hmade)
  obtain ⟨-, hpassed, hnode, hvalues⟩ := parse_passedOn hparse
  have hfollows : StartCommand.Follows (StartCommand.tokenize parts) words :=
    StartCommand.follows_iff.mpr (by decide +kernel)
  refine ⟨o, c, chart, hparse, hc, hchart,
    hpassed words _ hfollows (StartCommand.reads_iff.mpr (by decide +kernel)), ?_, ?_⟩
  · rw [hnode o o.first {} {} c rfl hc, hentries, hmode]
    rfl
  · rw [hvalues o {} {} chart rfl hchart, hentries]
    rfl

end Handover
