import Handover.Proofs.PassedOn
import Handover.Proofs.Uniformity
import Mathlib.Data.List.DropRight

/-!
# Failover is kept

A mode of failover is read from a flag, and each target is told of it in its own way: the operator
by the volume for failover and a flag, a StatefulSet by one entry of its values. Either way the mode
can be read off again.

For the operator this needs that the flag is never among those that are passed on, and that the
volume in use is mounted where the flag says (`CrdbNodes.tellsMode_of_node`). For a StatefulSet it
needs that a mode is written as a value that stands for it (`WalFailover.classify_written`), and
that nodes with the same flags have the same mode (`observe_keepsFailover`).
-/

namespace Handover

open Kubernetes Manifest Yaml

/-! ## Modes as values -/

namespace Text

theorem dropSlashes_idem (s : String) : dropSlashes (dropSlashes s) = dropSlashes s := by
  show String.ofList (List.rdropWhile _ (String.ofList (List.rdropWhile _ s.toList)).toList) = _
  rw [String.toList_ofList, List.rdropWhile_idempotent]
  rfl

theorem dropSlashes_prefix (s : String) : (dropSlashes s).toList <+: s.toList := by
  show (String.ofList (List.rdropWhile _ s.toList)).toList <+: _
  rw [String.toList_ofList]
  exact List.rdropWhile_prefix _ _

/-- Of an absolute path nothing is left or an absolute path. -/
theorem startsWith_dropSlashes {path : String} (h : startsWith path "/" = true)
    (hne : dropSlashes path ≠ "") : startsWith (dropSlashes path) "/" = true := by
  have hpos : 0 < (dropSlashes path).toList.length := by simpa [List.length_pos_iff] using hne
  have hdrop := dropSlashes_prefix path
  exact startsWith_iff.mpr (List.prefix_of_prefix_length_le (startsWith_iff.mp h) hdrop hpos)

end Text

namespace WalFailover

theorem trimPath_idem (path : String) : trimPath (trimPath path) = trimPath path := by
  by_cases hempty : (Text.dropSlashes path).isEmpty = true
  · have hroot : trimPath path = "/" := if_pos hempty
    rw [hroot]
    decide
  · have htrim : trimPath path = Text.dropSlashes path := if_neg hempty
    rw [htrim, trimPath, Text.dropSlashes_idem]
    exact if_neg hempty

/-- An absolute path stays absolute. -/
theorem startsWith_trimPath {path : String} (h : Text.startsWith path "/" = true) :
    Text.startsWith (trimPath path) "/" = true := by
  by_cases hempty : (Text.dropSlashes path).isEmpty = true
  · have hroot : trimPath path = "/" := if_pos hempty
    rw [hroot]
    decide
  · have htrim : trimPath path = Text.dropSlashes path := if_neg hempty
    rw [htrim]
    exact Text.startsWith_dropSlashes h (by simpa using hempty)

/-- The modes that values stand for. -/
inductive Means (storeCount : Nat) : Option String → WalFailover → Prop
  | absent : Means storeCount none .disabled
  | disabled : Means storeCount (some "disabled") .disabled
  | amongStores : 1 < storeCount → Means storeCount (some "among-stores") .amongStores
  | sideDisk {path : String} : Text.startsWith path "/" = true →
    Means storeCount (some s!"path={path}") (.sideDisk (trimPath path))

theorem classify_path (path : String) (storeCount : Nat) :
    classify (some s!"path={path}") storeCount
      = if Text.startsWith path "/" then .ok (.sideDisk (trimPath path))
        else .error (.parse flag (.relativeFailoverPath path)) := by
  have hpath : Text.strip? "path=" s!"path={path}" = some path :=
    Text.strip?_eq_some_iff.mpr rfl
  have hother {text : String} (h : Text.strip? "path=" text = none) : s!"path={path}" ≠ text := by
    rintro rfl
    cases h.symm.trans hpath
  rw [classify, if_neg (hother (by decide)), if_neg (hother (by decide)), hpath]

theorem classify_eq_ok {value : Option String} {storeCount : Nat} {mode : WalFailover} :
    classify value storeCount = .ok mode ↔ Means storeCount value mode := by
  constructor
  · intro h
    unfold classify at h
    split at h
    · obtain rfl := Except.ok.inj h
      exact .absent
    · rename_i value
      by_cases hdisabled : value = "disabled"
      · obtain rfl := Except.ok.inj ((if_pos hdisabled).symm.trans h)
        exact hdisabled ▸ .disabled
      rw [if_neg hdisabled] at h
      by_cases hamong : value = "among-stores"
      · rw [if_pos hamong] at h
        split at h
        · rename_i hmany
          obtain rfl := Except.ok.inj h
          exact hamong ▸ .amongStores hmany
        · cases h
      rw [if_neg hamong] at h
      split at h
      · rename_i path hpath
        obtain rfl := Text.strip?_eq_some_iff.mp hpath
        split at h
        · rename_i habsolute
          obtain rfl := Except.ok.inj h
          exact .sideDisk habsolute
        · cases h
      · cases h
  · rintro (_ | _ | hmany | @⟨path, habsolute⟩)
    · rfl
    · rfl
    · exact if_pos hmany
    · exact (classify_path path storeCount).trans (if_pos habsolute)

/-- The value that a mode is written as; failover that is disabled is not written. -/
def written? (mode : WalFailover) : Option String :=
  if mode = .disabled then none else some mode.flagValue

/-- What a mode is written as stands for it. -/
theorem classify_written {value : Option String} {storeCount : Nat} {mode : WalFailover}
    (h : classify value storeCount = .ok mode) :
    classify mode.written? storeCount = .ok mode := by
  rcases classify_eq_ok.mp h with _ | _ | hmany | @⟨path, habsolute⟩
  · rfl
  · rfl
  · exact classify_eq_ok.mpr (.amongStores hmany)
  · have hagain : Means storeCount _ _ := .sideDisk (startsWith_trimPath habsolute)
    rw [trimPath_idem] at hagain
    exact classify_eq_ok.mpr hagain

theorem sideDiskPath?_eq_some_iff {mode : WalFailover} {path : String} :
    mode.sideDiskPath? = some path ↔ mode = .sideDisk path := by
  cases mode <;> simp [sideDiskPath?]

end WalFailover

/-- Failover is on when there is a disk of its own for it, mounted where the flag says. -/
theorem Storage.mountPath_of_failover {index : Nat} {pod : String} {mode : WalFailover}
    {ds : List StorageDescriptor} {failover : Option StorageDescriptor}
    (h : Storage.failover index pod mode ds = .ok failover) :
    failover.map (·.mountPath) = mode.sideDiskPath? := by
  unfold Storage.failover at h
  split at h
  · rename_i hpath
    obtain rfl := Except.ok.inj h
    exact hpath.symm
  · rename_i path hpath
    obtain ⟨found, -, h⟩ := Outcome.bind_eq_ok.mp h
    split at h
    · obtain rfl := Outcome.pure_eq_ok.mp h
      exact hpath.symm
    · cases h

/-! ## Under the operator -/

/-- A CrdbNode fails over to a disk of its own. -/
def Kubernetes.CrdbNodeSpec.FailsOverTo (spec : CrdbNodeSpec) (path : String) : Prop :=
  ∃ wal, spec.walFailoverSpec = some wal ∧ wal.status = "enable" ∧ wal.path = path

/-- A CrdbNode tells a mode of failover. -/
structure Kubernetes.CrdbNodeSpec.TellsMode (spec : CrdbNodeSpec) (mode : WalFailover) : Prop where
  sideDisk : ∀ path, mode = .sideDisk path ↔ spec.FailsOverTo path
  amongStores : mode = .amongStores ↔ spec.flags.get? "--wal-failover" = some "among-stores"
  disabled : mode = .disabled ↔ (∀ path, ¬ spec.FailsOverTo path)
    ∧ spec.flags.get? "--wal-failover" ≠ some "among-stores"

namespace CrdbNodes

variable {o : ClusterObservation} {n : NodeObservation} {trust : TrustMap} {target : Target}
  {c : CrdbNode}

theorem enabled_walFailoverSpec {path : String} :
    (∃ wal, walFailoverSpec n = some wal ∧ wal.status = "enable" ∧ wal.path = path)
      ↔ n.failover.map (·.mountPath) = some path := by
  rw [walFailoverSpec]
  cases n.failover with
  | some d => simp
  | none =>
    cases n.idleFailover? with
    | none => simp
    | some d => simp

theorem get?_nodeFlags (h : WalFailover.flag ∉ n.flags.extra.entries.map (·.1)) :
    n.walFailover = .amongStores ↔ (nodeFlags n).get? "--wal-failover" = some "among-stores" := by
  have hnone : n.flags.extra.entries.find? (·.1 = "--wal-failover") = none := by
    refine List.find?_eq_none.mpr fun e he => ?_
    have hne : e.1 ≠ "--wal-failover" := fun heq => h (List.mem_map.mpr ⟨e, he, heq⟩)
    simpa using hne
  rw [ExtraFlags.get?, entries_nodeFlags h, List.find?_append, hnone, Option.none_or]
  by_cases hmode : n.walFailover = .amongStores <;> simp [hmode]

/-- The mode of a node can be read off the CrdbNode that is built for it. -/
theorem tellsMode_of_node {index : Nat} {pod : String}
    (hflag : WalFailover.flag ∉ n.flags.extra.entries.map (·.1))
    (hfailover : Storage.failover index pod n.walFailover n.storage = .ok n.failover)
    (hc : node o n trust target = .ok c) : c.spec.TellsMode n.walFailover := by
  have hside (path : String) : n.walFailover = .sideDisk path ↔ c.spec.FailsOverTo path := by
    rw [CrdbNodeSpec.FailsOverTo, (isBuilt hc).failover, enabled_walFailoverSpec,
      Storage.mountPath_of_failover hfailover, WalFailover.sideDiskPath?_eq_some_iff]
  have hamong : n.walFailover = .amongStores
      ↔ c.spec.flags.get? "--wal-failover" = some "among-stores" := by
    rw [flags_of_node hc]
    exact get?_nodeFlags hflag
  refine ⟨hside, hamong, ?_⟩
  simp only [← hside, ne_eq, ← hamong]
  cases n.walFailover <;> simp

/-- A volume for failover is declared exactly when the node has one, in use or not. -/
theorem isSome_walFailoverSpec_of_node {index : Nat} {pod : String}
    (hfailover : Storage.failover index pod n.walFailover n.storage = .ok n.failover)
    (hc : node o n trust target = .ok c) :
    c.spec.walFailoverSpec.isSome ↔ ∃ d ∈ n.storage, d.name = Names.failoverVolume := by
  have hsome := congrArg Option.isSome (walFailoverSpec_template hfailover)
  rw [Option.isSome_map, Option.isSome_map] at hsome
  rw [(isBuilt hc).failover, hsome, NodeObservation.isSome_failoverVolume?]
  exact List.mem_map

end CrdbNodes

/-! ## Under a StatefulSet -/

namespace LegacyChart

open Manifest.Entries

variable {o : ClusterObservation} {n : NodeObservation} {trust : TrustMap} {target : Target}
  {chart : Value}

theorem lookup_value_walFailoverValues :
    Value.lookup "value" (walFailoverValues n) = n.walFailover.written?.map .text := by
  have hvalue : Value.lookup "value" (if n.walFailover = .disabled then []
      else Entries.putText [] "value" n.walFailover.flagValue)
        = n.walFailover.written?.map .text := by
    cases n.walFailover with
    | disabled => rfl
    | amongStores => rfl
    | sideDisk path =>
      have hvoid : isVoid (.text s!"path={path}") = false := by simp [isVoid, toString]
      show Value.lookup "value" (Entries.put [] "value" (.text s!"path={path}")) = _
      rw [lookup_put, if_pos ⟨rfl, hvoid⟩]
      rfl
  rw [walFailoverValues]
  cases n.failover.or n.failoverVolume? with
  | none => exact hvalue
  | some d =>
    show Value.lookup "value" (Entries.putEntries _ _ _) = _
    rw [lookup_putEntries, if_neg (by decide)]
    exact hvalue

theorem failover_of_values (h : values o trust target = .ok chart) :
    chart.path? ["conf", "wal-failover", "value"] = o.first.walFailover.written?.map .text := by
  obtain ⟨stores, -, -, hwal, -⟩ := values_sections h
  exact (path?_of_section _ "value" hwal).trans lookup_value_walFailoverValues

end LegacyChart

/-- Failover is kept either way. The mode of a node can be read off a CrdbNode that is built for
it, and the one set of values of a StatefulSet gives every node the mode that it has. -/
theorem observe_keepsFailover {inventory : Inventory} {o : ClusterObservation}
    (hobserve : observe inventory = .ok o) (trust : TrustMap) (target : Target) :
    (∀ n ∈ o.nodes, ∀ c, CrdbNodes.node o n trust target = .ok c →
        c.spec.TellsMode n.walFailover
          ∧ (c.spec.walFailoverSpec.isSome ↔ ∃ d ∈ n.storage, d.name = Names.failoverVolume))
      ∧ ∀ files, synthesize .toStatefulSet o trust target = .ok files →
        ∃ chart value, files.filter (·.name = "values.yaml") = [⟨"values.yaml", [chart]⟩]
          ∧ chart.path? ["conf", "wal-failover", "value"] = value.map .text
          ∧ (∀ n ∈ o.nodes, WalFailover.classify value n.flags.storeCount = .ok n.walFailover)
          ∧ ((chart.path? ["conf", "wal-failover", "persistentVolume"]).isSome
            ↔ ∃ d ∈ o.first.storage, d.name = Names.failoverVolume) := by
  refine ⟨fun n hn c hc => ?_, fun files hfiles => ?_⟩
  · obtain ⟨⟨parts, hparse⟩, -, index, pod, hfailover⟩ := failover_of_observe hobserve hn
    have hflag : WalFailover.flag ∉ n.flags.extra.entries.map (·.1) :=
      StartCommand.notMem_extra_of_parse hparse (by decide)
    exact ⟨CrdbNodes.tellsMode_of_node hflag hfailover hc,
      CrdbNodes.isSome_walFailoverSpec_of_node hfailover hc⟩
  · obtain ⟨-, hfiles⟩ := synthesize_toStatefulSet_eq_ok.mp hfiles
    obtain ⟨hflags, -, chart, hchart, rfl⟩ := LegacyChart.files_eq_ok.mp hfiles
    have hsame : ∀ n ∈ o.nodes, n.flags = o.first.flags := List.forall_mem_cons.mpr ⟨rfl, hflags⟩
    obtain ⟨-, hfirst, -⟩ := failover_of_observe hobserve List.mem_cons_self
    refine ⟨chart, o.first.walFailover.written?, filter_legacyChart o chart,
      LegacyChart.failover_of_values hchart, fun n hn => ?_, ?_⟩
    · obtain ⟨-, hmode, -⟩ := failover_of_observe hobserve hn
      rw [hsame n hn] at hmode ⊢
      obtain hmode := Except.ok.inj (hmode.symm.trans hfirst)
      rw [hmode]
      exact WalFailover.classify_written hfirst
    · rw [LegacyChart.isSome_failover_of_values hchart (isSome_failover_of_observe hobserve)]
      exact List.mem_map

/-- A node that fails over to a directory of its volume for failover keeps that directory. -/
theorem loneNode_keepsFailover :
    ∃ inventory o c files chart value, observe inventory = .ok o
      ∧ CrdbNodes.node o o.first {} {} = .ok c
      ∧ synthesize .toStatefulSet o {} {} = .ok files
      ∧ c.spec.FailsOverTo "/failoverdir/a"
      ∧ files.filter (·.name = "values.yaml") = [⟨"values.yaml", [chart]⟩]
      ∧ chart.path? ["conf", "wal-failover", "value"] = value.map .text
      ∧ WalFailover.classify value 1 = .ok (.sideDisk "/failoverdir/a") := by
  obtain ⟨inventory, o, -, -, hobserve, hmade⟩ := LoneNode.exists_observed
    ["start", "--wal-failover", "path=/failoverdir/a//"] ["d", "failoverdir"]
    SmallCluster.storeAndFailover
    (fun o => do
      let _ ← CrdbNodes.node o o.first {} {}
      let _ ← synthesize .toStatefulSet o {} {}
      return decide (o.first.walFailover = .sideDisk "/failoverdir/a"
        ∧ o.first.flags.storeCount = 1))
    true (by decide +kernel)
  obtain ⟨c, hc, hmade⟩ := Outcome.bind_eq_ok.mp hmade
  obtain ⟨files, hfiles, hmade⟩ := Outcome.bind_eq_ok.mp hmade
  obtain ⟨hmode, hcount⟩ := of_decide_eq_true (Outcome.pure_eq_ok.mp hmade)
  obtain ⟨hnodes, hvalues⟩ := observe_keepsFailover hobserve {} {}
  obtain ⟨htells, -⟩ := hnodes o.first List.mem_cons_self c hc
  obtain ⟨chart, value, hfile, hvalue, hmodes, -⟩ := hvalues files hfiles
  have hfirst := hmodes o.first List.mem_cons_self
  rw [hmode, hcount] at hfirst
  exact ⟨inventory, o, c, files, chart, value, hobserve, hc, hfiles,
    (htells.sideDisk _).mp hmode, hfile, hvalue, hfirst⟩

end Handover
