import Handover.Proofs.ChartValues
import Handover.Proofs.CrdbNodes
import Handover.Proofs.FileNames
import Handover.Proofs.OperatorCluster

/-!
# What one set of values stands for

All pods of a StatefulSet run by one set of values, while the CrdbNodes of a cluster may each
declare something else. Of a later node the flags are compared with those of the first one, and
nothing besides. The values ask for the volumes of the first node and run pods by its policy
(`values_volumes`, `values_sections`), so they account for the claims of another node exactly when
it happens to have as many volumes of each kind (`accountsFor_iff`,
`synthesize_toStatefulSet_first`).
-/

namespace Handover

open Kubernetes Manifest Yaml

/-- The names of the volumes that a CrdbNode declares, or the default one. -/
def Kubernetes.CrdbNodeSpec.volumes (spec : CrdbNodeSpec) : List String :=
  spec.templates.map (·.name)

/-- The volumes that hold stores: all but the one for failover. -/
def storeVolumes (volumes : List String) : List String :=
  volumes.filter (· ≠ Names.failoverVolume)

namespace NodeObservation

/-- The names of the volumes of a node. -/
def volumes (n : NodeObservation) : List String := n.storage.map (·.name)

theorem length_dataStorage (n : NodeObservation) :
    n.dataStorage.length = (storeVolumes n.volumes).length := by
  rw [storeVolumes, volumes, List.filter_map, List.length_map]
  rfl

theorem isSome_failoverVolume? (n : NodeObservation) :
    n.failoverVolume?.isSome ↔ Names.failoverVolume ∈ n.volumes := by
  simp only [failoverVolume?, List.find?_isSome, volumes, List.mem_map, decide_eq_true_eq]

end NodeObservation

namespace LegacyChart

open Manifest.Entries

variable {o : ClusterObservation} {trust : TrustMap} {target : Target} {chart : Value}
  {n : NodeObservation}

/-! ## Volumes in values -/

theorem asSection_volumeValues (d : StorageDescriptor) :
    (volumeValues d).asSection = some (.map (volumeValues d)) := by
  refine asSection_of_lookup _ "enabled" (v := .bool true) ?_
  rw [volumeValues, lookup_putText?_of_ne _ _ _ _ (by decide), putText,
    lookup_put_of_ne _ _ _ _ (by decide)]
  rfl

/-- The volume for stores in the values is the first one of the first node. -/
theorem lookup_storageValues :
    Value.lookup "persistentVolume" (storageValues n)
      = n.dataStorage.head?.map fun d => .map (volumeValues d) := by
  rw [storageValues]
  cases n.dataStorage.head? with
  | none => rfl
  | some d =>
    show Value.lookup "persistentVolume" (Entries.putEntries [] _ _) = _
    rw [lookup_putEntries, if_pos rfl, asSection_volumeValues]
    rfl

/-- The volume for failover in the values is that of the first node, whether or not it is in use. -/
theorem lookup_walFailoverValues :
    Value.lookup "persistentVolume" (walFailoverValues n)
      = (n.failover.or n.failoverVolume?).map fun d => .map (volumeValues d) := by
  have hvalue : Value.lookup "persistentVolume" (if n.walFailover = .disabled then []
      else Entries.putText [] "value" n.walFailover.flagValue) = none := by
    split
    · rfl
    · rw [putText, lookup_put_of_ne _ _ _ _ (by decide), lookup_nil]
  rw [walFailoverValues]
  cases n.failover.or n.failoverVolume? with
  | none => exact hvalue
  | some d =>
    show Value.lookup "persistentVolume" (Entries.putEntries _ _ _) = _
    rw [lookup_putEntries, if_pos rfl, asSection_volumeValues]
    rfl

/-- The fields of stores go under keys of their own. -/
theorem lookup_count_of_storeFields {index : Nat} {options : List String} {fields : Entries}
    (h : options.foldlM (putStoreField index) [] = .ok fields) :
    Value.lookup "count" fields = none := by
  refine Outcome.foldlM_keeps (P := fun fields => Value.lookup "count" fields = none) ?_
    (lookup_nil "count") h
  intro fields option fields' hfields hput
  rw [putStoreField] at hput
  generalize (Text.cutFirst? '=' option).getD (option, "") = field at hput
  obtain ⟨key, value⟩ := field
  by_cases hkey : key = "attrs" ∨ key = "size"
  · obtain rfl := Except.ok.inj ((if_pos hkey).symm.trans hput)
    rw [putText, lookup_put_of_ne, hfields]
    rcases hkey with rfl | rfl <;> decide
  · cases (if_neg hkey).symm.trans hput

/-- Volumes for stores are counted when there are several. -/
theorem lookup_count_of_storeValues {stores : Entries} (h : storeValues n = .ok stores) :
    Value.lookup "count" stores
      = if 1 < n.dataStorage.length then some (.number (.int n.dataStorage.length)) else none := by
  obtain ⟨options, -, h⟩ := Outcome.bind_eq_ok.mp h
  obtain ⟨fields, hfields, h⟩ := Outcome.bind_eq_ok.mp h
  have hnone := lookup_count_of_storeFields hfields
  by_cases hmany : 1 < n.dataStorage.length
  · obtain rfl := Outcome.pure_eq_ok.mp ((if_pos (.inl hmany)).symm.trans h)
    rw [if_pos hmany, if_pos hmany]
    rfl
  · rw [if_neg hmany]
    by_cases hfields : fields = []
    · obtain rfl := Outcome.pure_eq_ok.mp ((if_neg (by simp [hmany, hfields])).symm.trans h)
      rfl
    · obtain rfl := Outcome.pure_eq_ok.mp ((if_pos (.inr hfields)).symm.trans h)
      rw [if_neg hmany]
      exact hnone

/-- What the values say of volumes is what the first node has. -/
theorem values_volumes (h : values o trust target = .ok chart) :
    chart.path? ["conf", "store", "count"] = (if 1 < o.first.dataStorage.length
        then some (.number (.int o.first.dataStorage.length)) else none)
      ∧ chart.path? ["storage", "persistentVolume"]
        = o.first.dataStorage.head?.map (fun d => .map (volumeValues d))
      ∧ chart.path? ["conf", "wal-failover", "persistentVolume"]
        = (o.first.failover.or o.first.failoverVolume?).map fun d => .map (volumeValues d) := by
  obtain ⟨stores, hstores, hstore, hwal, -, hstorage, -⟩ := values_sections h
  exact ⟨(path?_of_section _ "count" hstore).trans (lookup_count_of_storeValues hstores),
    (path?_of_section _ "persistentVolume" hstorage).trans lookup_storageValues,
    (path?_of_section _ "persistentVolume" hwal).trans lookup_walFailoverValues⟩

/-! ## Volumes accounted for -/

/-- The number of volumes for stores that values ask for at each pod. Without a count it is one, if
there is a volume at all. -/
def storesAsked (chart : Value) : Nat :=
  match chart.path? ["conf", "store", "count"] with
  | some (.number (.int count)) => count.toNat
  | _ => if (chart.path? ["storage", "persistentVolume"]).isSome then 1 else 0

/-- The values ask for the volumes of some names: for as many as hold stores, and for one for
failover if there is one. -/
structure AccountsFor (chart : Value) (volumes : List String) : Prop where
  stores : storesAsked chart = (storeVolumes volumes).length
  failover : (chart.path? ["conf", "wal-failover", "persistentVolume"]).isSome
    ↔ Names.failoverVolume ∈ volumes

theorem storesAsked_of_values (h : values o trust target = .ok chart) :
    storesAsked chart = (storeVolumes o.first.volumes).length := by
  obtain ⟨hcount, hvolume, -⟩ := values_volumes h
  rw [storesAsked, hcount, hvolume, ← NodeObservation.length_dataStorage]
  rcases o.first.dataStorage with _ | ⟨d, _ | ⟨d', ds⟩⟩
  · rfl
  · rfl
  · rw [if_pos (by simp)]
    exact Int.toNat_natCast _

/-- The values ask for a volume for failover when the first node has one. -/
theorem isSome_failover_of_values (h : values o trust target = .ok chart)
    (hfailover : o.first.failover.isSome → o.first.failoverVolume?.isSome) :
    (chart.path? ["conf", "wal-failover", "persistentVolume"]).isSome
      ↔ Names.failoverVolume ∈ o.first.volumes := by
  obtain ⟨-, -, hwal⟩ := values_volumes h
  rw [hwal, Option.isSome_map, Option.isSome_or, Bool.or_eq_true,
    ← NodeObservation.isSome_failoverVolume?]
  exact ⟨fun h => h.elim hfailover id, .inr⟩

/-- The volumes of a node are accounted for when there are as many as on the first node. -/
theorem accountsFor_iff (h : values o trust target = .ok chart)
    (hfailover : o.first.failover.isSome → o.first.failoverVolume?.isSome)
    (volumes : List String) :
    AccountsFor chart volumes ↔
      (storeVolumes volumes).length = (storeVolumes o.first.volumes).length
        ∧ (Names.failoverVolume ∈ volumes ↔ Names.failoverVolume ∈ o.first.volumes) := by
  have hasked := isSome_failover_of_values h hfailover
  constructor
  · rintro ⟨hstores, hfailover⟩
    exact ⟨hstores.symm.trans (storesAsked_of_values h), hfailover.symm.trans hasked⟩
  · rintro ⟨hstores, hfailover⟩
    exact ⟨(storesAsked_of_values h).trans hstores.symm, hasked.trans hfailover.symm⟩

/-- The values run pods by a policy. -/
structure RunsBy (chart : Value) (o : ClusterObservation) (target : Target)
    (policy : PodPolicy) : Prop where
  image : chart.path? ["image"] = (imageValues (target.image.or policy.image)).asSection
  pods : chart.path? ["statefulset"] = (podValues { o with policy := policy }).asSection

end LegacyChart

section Observed

variable {store : ObjectStore} {ns cluster : String} {inventory : Inventory}
  {o : ClusterObservation}

/-- The volume for failover that is in use is attached. -/
theorem isSome_failover_of_observe (hobserve : observe inventory = .ok o)
    (h : o.first.failover.isSome) : o.first.failoverVolume?.isSome := by
  obtain ⟨-, -, index, pod, hfailover⟩ := failover_of_observe hobserve List.mem_cons_self
  rcases Storage.failover_of_eq_ok hfailover with hnone | ⟨found, path, hfound, -⟩
  · rw [hnone] at h
    cases h
  · rw [NodeObservation.failoverVolume?, hfound]
    rfl

namespace ClusterObservation.DeclaredBy

variable {nodes : List CrdbNode}

/-- The volumes of a node are those that its own CrdbNode declares. -/
theorem volumes_eq (h : o.DeclaredBy store ns cluster nodes) {i : Nat} {c : CrdbNode}
    {n : NodeObservation} (hc : nodes[i]? = some c) (hn : o.nodes[i]? = some n) :
    c.spec.volumes = n.volumes := by
  rw [CrdbNodeSpec.volumes, NodeObservation.volumes, ← List.forall₂_eq_eq_eq,
    List.forall₂_map_left_iff, List.forall₂_map_right_iff]
  exact (h.storage hc hn).imp fun _ _ hbacks => hbacks.name.symm

theorem map_volumes_eq (h : o.DeclaredBy store ns cluster nodes) :
    nodes.map (·.spec.volumes) = o.nodes.map (·.volumes) := by
  rw [← List.forall₂_eq_eq_eq, List.forall₂_map_left_iff, List.forall₂_map_right_iff]
  exact forall₂_of_getElem? h.length_eq h.volumes_eq

/-- A cluster under the operator becomes a StatefulSet when its nodes run with the same flags, its
claims can be adopted, and the stores of the first node can be put into values. -/
theorem exists_files (h : o.DeclaredBy store ns cluster nodes) {trust : TrustMap}
    {target : Target} :
    (∃ files, synthesize .toStatefulSet o trust target = .ok files) ↔
      (∀ n ∈ o.nodes, n.flags = o.first.flags) ∧ (∀ n ∈ o.nodes, LegacyChart.Adoptable n)
        ∧ ∃ stores, LegacyChart.storeValues o.first = .ok stores := by
  rw [exists_toStatefulSet, h.source_eq]
  exact and_iff_right rfl

end ClusterObservation.DeclaredBy

/-- Of a cluster under the operator only the flags are compared before it becomes a StatefulSet,
and its claims must be adopted one by one. The values then stand for the first CrdbNode: they run
pods by its policy, and account for the volumes of another one exactly when that one declares as
many of each kind. -/
theorem synthesize_toStatefulSet_first
    (hread : Inventory.read store .crdbNode ns cluster = .ok inventory)
    (hobserve : observe inventory = .ok o) (trust : TrustMap) (target : Target) :
    ∃ nodes first, inventory.controller = .crdbNodes nodes ∧ nodes[0]? = some first
      ∧ nodes.map (·.spec.volumes) = o.nodes.map (·.volumes)
      ∧ ((∃ files, synthesize .toStatefulSet o trust target = .ok files) ↔
        (∀ n ∈ o.nodes, n.flags = o.first.flags) ∧ (∀ n ∈ o.nodes, LegacyChart.Adoptable n)
          ∧ ∃ stores, LegacyChart.storeValues o.first = .ok stores)
      ∧ ∀ files, synthesize .toStatefulSet o trust target = .ok files →
        ∃ chart, files.filter (·.name = "values.yaml") = [⟨"values.yaml", [chart]⟩]
          ∧ LegacyChart.RunsBy chart o target (.ofCrdbNode first.spec)
          ∧ ∀ c ∈ nodes, LegacyChart.AccountsFor chart c.spec.volumes ↔
            (storeVolumes c.spec.volumes).length = (storeVolumes first.spec.volumes).length
              ∧ (Names.failoverVolume ∈ c.spec.volumes ↔
                Names.failoverVolume ∈ first.spec.volumes) := by
  obtain ⟨nodes, hcontroller, hdeclared⟩ := declaredBy_of_observe hread hobserve
  obtain ⟨first, hfirst, hpolicy, -⟩ := hdeclared.first
  refine ⟨nodes, first, hcontroller, hfirst, hdeclared.map_volumes_eq, hdeclared.exists_files,
    fun files hfiles => ?_⟩
  have hnames := sideBySide_of_synthesize hread hobserve hfiles
  obtain ⟨-, hfiles⟩ := synthesize_toStatefulSet_eq_ok.mp hfiles
  obtain ⟨-, -, chart, hchart, rfl⟩ := LegacyChart.files_eq_ok.mp hfiles
  obtain ⟨stores, -, -, -, -, -, himage, hpods⟩ := LegacyChart.values_sections hchart
  rw [hpolicy] at himage
  have hfile : ⟨"values.yaml", [chart]⟩ ∈ LegacyChart.manifests o chart :=
    List.mem_append_right _ List.mem_cons_self
  refine ⟨chart, filter_name_of_mem hnames hfile, ⟨himage, ?_⟩, fun c _ => ?_⟩
  · rw [hpods, ← hpolicy]
  · rw [hdeclared.volumes_eq hfirst (n := o.first) rfl]
    exact LegacyChart.accountsFor_iff hchart (isSome_failover_of_observe hobserve) _

end Observed

/-- The small cluster, whose nodes both declare a volume for failover, becomes a StatefulSet, and
its values account for the volumes of the second node. -/
theorem smallCluster_first :
    ∃ inventory o files chart,
      Inventory.read (SmallCluster.operatorStore Names.claimName SmallCluster.storeAndFailover
          SmallCluster.storeAndFailover) .crdbNode "n" "c-1" = .ok inventory
        ∧ observe inventory = .ok o ∧ synthesize .toStatefulSet o {} {} = .ok files
        ∧ files.filter (·.name = "values.yaml") = [⟨"values.yaml", [chart]⟩]
        ∧ LegacyChart.AccountsFor chart ["d", "failoverdir"] := by
  obtain ⟨inventory, o, files, hread, hcontroller, hobserve, hfiles⟩ :=
    SmallCluster.exists_observed Names.claimName SmallCluster.storeAndFailover
      SmallCluster.storeAndFailover (fun o => synthesize .toStatefulSet o {} {}) (by decide +kernel)
  obtain ⟨nodes, first, hnodes, hfirst, -, -, hvalues⟩ :=
    synthesize_toStatefulSet_first hread hobserve {} {}
  obtain rfl := Controller.crdbNodes.inj (hnodes.symm.trans hcontroller)
  obtain rfl := Option.some.inj hfirst
  obtain ⟨chart, hfile, -, haccounts⟩ := hvalues files hfiles
  exact ⟨inventory, o, files, chart, hread, hobserve, hfiles, hfile,
    (haccounts (SmallCluster.crdbNode "c-1-1" SmallCluster.storeAndFailover) (by simp)).mpr
      ⟨rfl, Iff.rfl⟩⟩

/-- It is not so that a cluster that becomes a StatefulSet is the same on all its nodes: the second
CrdbNode may declare a volume that the first one does not, or another image. -/
theorem not_always_uniform :
    ¬ ∀ (store : ObjectStore) (ns cluster : String) (inventory : Inventory)
        (o : ClusterObservation) (trust : TrustMap) (target : Target) (files : List ManifestFile)
        (nodes : List CrdbNode) (first : CrdbNode),
      Inventory.read store .crdbNode ns cluster = .ok inventory → observe inventory = .ok o →
      synthesize .toStatefulSet o trust target = .ok files →
      inventory.controller = .crdbNodes nodes → nodes[0]? = some first →
      (∀ n ∈ o.nodes, n.flags = o.first.flags)
        ∧ (∀ c ∈ nodes, c.spec.volumes = first.spec.volumes)
        ∧ ∀ c ∈ nodes, PodPolicy.ofCrdbNode c.spec = PodPolicy.ofCrdbNode first.spec := by
  intro halways
  let other : CrdbNodeSpec := { SmallCluster.storeAndFailover with image := some "j" }
  obtain ⟨inventory, o, files, hread, hcontroller, hobserve, hfiles⟩ :=
    SmallCluster.exists_observed Names.claimName SmallCluster.storeOnly other
      (fun o => synthesize .toStatefulSet o {} {}) (by decide +kernel)
  obtain ⟨-, hvolumes, -⟩ := halways _ _ _ _ _ _ _ _ _ _ hread hobserve hfiles hcontroller rfl
  have hsame : other.volumes = SmallCluster.storeOnly.volumes :=
    hvolumes (SmallCluster.crdbNode "c-1-1" other) (by simp)
  exact absurd hsame (by decide)

end Handover
