import Handover.Proofs.FailoverKept
import Handover.Proofs.ReadBack

/-!
# Which volume is for failover

A CrdbNode declares the volumes of its stores and, under a name of its own choice, one for
failover. The storage of its node is these volumes in their order (`NodeObservation.StoredAs`), but
from then on the volume for failover is known by one fixed name only. So what a CrdbNode declares
for stores and what its node counts as such are the same exactly when that name is the name of the
volume for failover and of no store (`NodeObservation.tellsApart_iff`), and then its stores are what
the values of a StatefulSet count (`observe_failoverVolume`).
-/

namespace Handover

open Kubernetes Manifest Yaml

/-! ## Declared names -/

/-- The names of the volumes for stores that a CrdbNode declares, or the default one. -/
def Kubernetes.CrdbNodeSpec.storeNames (spec : CrdbNodeSpec) : List String :=
  if spec.dataStores.isEmpty then [Names.dataVolume]
  else spec.dataStores.map fun store => store.template.name

/-- The name of the volume for failover that a CrdbNode declares. -/
def Kubernetes.CrdbNodeSpec.failoverName? (spec : CrdbNodeSpec) : Option String :=
  spec.walFailoverSpec.map (·.name)

theorem Kubernetes.CrdbNodeSpec.volumes_eq_append (spec : CrdbNodeSpec) :
    spec.volumes = spec.storeNames ++ spec.failoverName?.toList := by
  have hwal : ((spec.walFailoverSpec.map WalFailoverSpec.template).toList).map (·.name)
      = spec.failoverName?.toList := by
    rw [← Option.toList_map, Option.map_map]
    rfl
  rw [volumes, templates, List.map_append]
  refine congrArg₂ (· ++ ·) ?_ hwal
  rw [storeNames]
  cases spec.dataStores with
  | nil => rfl
  | cons store stores => exact List.map_map

/-- The name by which volumes for failover are known is that of the volume for failover, if there
is one, and of no store. -/
structure Kubernetes.CrdbNodeSpec.NamesFailover (spec : CrdbNodeSpec) : Prop where
  stores : Names.failoverVolume ∉ spec.storeNames
  failover : ∀ name, spec.failoverName? = some name → name = Names.failoverVolume

/-! ## Stores and failover apart -/

namespace NodeObservation

variable {n : NodeObservation} {spec : CrdbNodeSpec}

/-- The storage of a node is that of its stores, and behind them that for failover. -/
structure StoredAs (n : NodeObservation) (spec : CrdbNodeSpec) (stores : List StorageDescriptor)
    (failover : Option StorageDescriptor) : Prop where
  storage : n.storage = stores ++ failover.toList
  storeNames : stores.map (·.name) = spec.storeNames
  failoverName : failover.map (·.name) = spec.failoverName?

theorem exists_storedAs (h : n.volumes = spec.volumes) :
    ∃ stores failover, n.StoredAs spec stores failover := by
  rw [volumes, spec.volumes_eq_append, List.map_eq_append_iff] at h
  obtain ⟨stores, rest, hstorage, hstores, hrest⟩ := h
  cases hname : spec.failoverName? with
  | none =>
    obtain rfl : rest = [] := by simpa [hname] using hrest
    exact ⟨stores, none, hstorage, hstores, hname.symm⟩
  | some name =>
    obtain ⟨d, rfl, hd⟩ : ∃ d, rest = [d] ∧ d.name = name := by
      simpa [hname, List.map_eq_singleton_iff] using hrest
    exact ⟨stores, some d, hstorage, hstores, hname ▸ congrArg some hd⟩

/-- What a node counts as stores and takes for failover is what is declared as such exactly when
the volume for failover, and no other, has the name by which it is known. -/
theorem tellsApart_iff {stores : List StorageDescriptor} {failover : Option StorageDescriptor}
    (h : n.StoredAs spec stores failover) :
    n.dataStorage = stores ∧ n.failoverVolume? = failover ↔ spec.NamesFailover := by
  have hmem : Names.failoverVolume ∈ spec.storeNames
      ↔ ∃ d ∈ stores, d.name = Names.failoverVolume := by
    rw [← h.storeNames, List.mem_map]
  constructor
  · rintro ⟨hstores, hfailover⟩
    refine ⟨fun hin => ?_, fun name hname => ?_⟩
    · obtain ⟨d, hd, hdname⟩ := hmem.mp hin
      rw [← hstores, dataStorage, List.mem_filter] at hd
      exact of_decide_eq_true hd.2 hdname
    · rw [← h.failoverName, Option.map_eq_some_iff] at hname
      obtain ⟨d, rfl, rfl⟩ := hname
      rw [failoverVolume?] at hfailover
      simpa using List.find?_some hfailover
  · rintro ⟨hstores, hfailover⟩
    have hother : ∀ d ∈ stores, d.name ≠ Names.failoverVolume := fun d hd hdname =>
      hstores (hmem.mpr ⟨d, hd, hdname⟩)
    have hown : ∀ d ∈ failover, d.name = Names.failoverVolume := by
      rintro d rfl
      exact hfailover d.name h.failoverName.symm
    have hkeep : stores.filter (·.name ≠ Names.failoverVolume) = stores :=
      List.filter_eq_self.mpr fun d hd => decide_eq_true (hother d hd)
    have hnone : stores.find? (·.name = Names.failoverVolume) = none :=
      List.find?_eq_none.mpr fun d hd hdname => hother d hd (of_decide_eq_true hdname)
    rw [dataStorage, failoverVolume?, h.storage, List.filter_append, List.find?_append, hkeep,
      hnone, Option.none_or]
    cases failover with
    | none => simp
    | some d => simp [hown d rfl]

end NodeObservation

section Observed

variable {inventory : Inventory} {o : ClusterObservation} {nodes : List CrdbNode}

/-- The volumes of a node are those that its own CrdbNode declares. -/
theorem volumes_of_observe (hcontroller : inventory.controller = .crdbNodes nodes)
    (hobserve : observe inventory = .ok o) {i : Nat} {c : CrdbNode} {n : NodeObservation}
    (hc : nodes[i]? = some c) (hn : o.nodes[i]? = some n) : n.volumes = c.spec.volumes := by
  obtain ⟨d, ⟨pod, -, hd⟩, -, hnodes⟩ := nodes_of_observe hobserve
  obtain ⟨pod', -, hnode⟩ := hnodes hn
  obtain ⟨container, -, -, -, hstorage, -⟩ := observeNode_eq_ok.mp hnode
  cases nodes with
  | nil => cases hc
  | cons first others =>
    obtain ⟨d', hd', -, -, -, htemplates⟩ := declared_crdbNodes hcontroller pod
    obtain rfl := Except.ok.inj (hd'.symm.trans hd)
    rw [htemplates hc] at hstorage
    exact Storage.names_of_resolve hstorage

/-- The volume for failover in use is the one that is known by its name, mounted elsewhere. -/
theorem failover_of_mem (hobserve : observe inventory = .ok o) {n : NodeObservation}
    (hn : n ∈ o.nodes) {d : StorageDescriptor} (hd : n.failover = some d) :
    ∃ found, n.failoverVolume? = some found ∧ d = { found with mountPath := d.mountPath } := by
  obtain ⟨-, -, index, pod, hfailover⟩ := failover_of_observe hobserve hn
  rcases Storage.failover_of_eq_ok hfailover with hnone | ⟨found, path, hfound, hsome⟩
  · rw [hnone] at hd
    cases hd
  · obtain rfl := Option.some.inj (hsome.symm.trans hd)
    exact ⟨found, hfound, rfl⟩

/-- A node has its storage as its CrdbNode declares it, but counts as stores and takes for failover
what is declared as such only when the volume for failover has the name by which it is known, and no
other has it. The values of a StatefulSet count the volumes under other names that the first
CrdbNode declares, which are then its stores. -/
theorem observe_failoverVolume (hcontroller : inventory.controller = .crdbNodes nodes)
    (hobserve : observe inventory = .ok o) :
    (∀ {i : Nat} {c : CrdbNode} {n : NodeObservation}, nodes[i]? = some c → o.nodes[i]? = some n →
        ∃ stores failover, n.StoredAs c.spec stores failover
          ∧ (n.dataStorage = stores ∧ n.failoverVolume? = failover ↔ c.spec.NamesFailover)
          ∧ ∀ d, n.failover = some d →
            ∃ found, n.failoverVolume? = some found ∧ d = { found with mountPath := d.mountPath })
      ∧ ∀ first, nodes[0]? = some first → ∀ trust target files,
        synthesize .toStatefulSet o trust target = .ok files →
        ∃ (chart : Value) (count : Nat),
          files.filter (·.name = "values.yaml") = [⟨"values.yaml", [chart]⟩]
          ∧ chart.path? ["conf", "store", "count"]
            = (if 1 < count then some (.number (.int count)) else none)
          ∧ count = (storeVolumes first.spec.volumes).length
          ∧ (first.spec.NamesFailover → count = first.spec.storeNames.length) := by
  refine ⟨fun {i c n} hc hn => ?_, fun first hfirst trust target files hfiles => ?_⟩
  · obtain ⟨stores, failover, hstored⟩ :=
      NodeObservation.exists_storedAs (volumes_of_observe hcontroller hobserve hc hn)
    exact ⟨stores, failover, hstored, NodeObservation.tellsApart_iff hstored, fun d hd =>
      failover_of_mem hobserve (List.mem_of_getElem? hn) hd⟩
  · obtain ⟨-, hfiles⟩ := synthesize_toStatefulSet_eq_ok.mp hfiles
    obtain ⟨-, -, chart, hchart, rfl⟩ := LegacyChart.files_eq_ok.mp hfiles
    obtain ⟨hcount, -⟩ := LegacyChart.values_volumes hchart
    have hvolumes := volumes_of_observe hcontroller hobserve hfirst (n := o.first) rfl
    refine ⟨chart, o.first.dataStorage.length, filter_legacyChart o chart, hcount, ?_, ?_⟩
    · rw [NodeObservation.length_dataStorage, hvolumes]
    · intro hnames
      obtain ⟨stores, failover, hstored⟩ := NodeObservation.exists_storedAs hvolumes
      obtain ⟨hstores, -⟩ := (NodeObservation.tellsApart_iff hstored).mpr hnames
      rw [hstores, ← hstored.storeNames, List.length_map]

end Observed

/-- A node whose volume for failover has the name by which it is known has one store. -/
theorem loneNode_failoverVolume :
    ∃ inventory o stores failover,
      inventory.controller = .crdbNodes [LoneNode.crdbNode SmallCluster.storeAndFailover]
        ∧ observe inventory = .ok o
        ∧ o.first.StoredAs SmallCluster.storeAndFailover stores failover
        ∧ o.first.dataStorage = stores ∧ o.first.failoverVolume? = failover
        ∧ ∃ files chart, synthesize .toStatefulSet o {} {} = .ok files
          ∧ files.filter (·.name = "values.yaml") = [⟨"values.yaml", [chart]⟩]
          ∧ chart.path? ["conf", "store", "count"] = none := by
  obtain ⟨inventory, o, -, hcontroller, hobserve, hfiles⟩ := LoneNode.exists_observed
    ["start"] ["d", "failoverdir"] SmallCluster.storeAndFailover
    (fun o => (synthesize .toStatefulSet o {} {}).map fun _ => ()) () (by decide +kernel)
  obtain ⟨files, hfiles, -⟩ := Outcome.map_eq_ok.mp hfiles
  have hnames : SmallCluster.storeAndFailover.NamesFailover :=
    ⟨by decide, fun name hname => (Option.some.inj hname).symm⟩
  obtain ⟨hnodes, hvalues⟩ := observe_failoverVolume hcontroller hobserve
  obtain ⟨stores, failover, hstored, hapart, -⟩ := hnodes (i := 0) rfl rfl
  obtain ⟨hstores, hfailover⟩ := hapart.mpr hnames
  obtain ⟨chart, count, hfile, hcount, -, hdeclared⟩ := hvalues _ rfl {} {} files hfiles
  have hone : count = 1 := hdeclared hnames
  rw [hone] at hcount
  exact ⟨inventory, o, stores, failover, hcontroller, hobserve, hstored, hstores, hfailover,
    files, chart, hfiles, hfile, hcount⟩

/-- It is not so that the volume that a CrdbNode declares for failover is never counted as a store:
it may be declared under any name. -/
theorem not_always_told_apart :
    ¬ ∀ (store : ObjectStore) (ns cluster : String) (inventory : Inventory)
        (o : ClusterObservation) (nodes : List CrdbNode) (i : Nat) (c : CrdbNode)
        (n : NodeObservation) (wal : WalFailoverSpec),
      Inventory.read store .crdbNode ns cluster = .ok inventory → observe inventory = .ok o →
      inventory.controller = .crdbNodes nodes → nodes[i]? = some c → o.nodes[i]? = some n →
      c.spec.walFailoverSpec = some wal → wal.name ∉ c.spec.storeNames →
      n.dataStorage.map (·.name) = c.spec.storeNames
        ∧ n.failoverVolume?.map (·.name) = some wal.name := by
  intro halways
  let wal : WalFailoverSpec := { status := "disable", name := "w" }
  let spec : CrdbNodeSpec := { SmallCluster.storeOnly with walFailoverSpec := some wal }
  obtain ⟨inventory, o, hread, hcontroller, hobserve, hnames⟩ := LoneNode.exists_observed
    ["start"] ["d", "w"] spec (fun o => pure (o.first.dataStorage.map (·.name))) ["d", "w"]
    (by decide +kernel)
  obtain ⟨hstores, -⟩ := halways _ _ _ _ _ _ 0 _ o.first wal hread hobserve hcontroller rfl rfl rfl
    (by decide)
  rw [Outcome.pure_eq_ok.mp hnames] at hstores
  exact absurd hstores (by decide)

end Handover
