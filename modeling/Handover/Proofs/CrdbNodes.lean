import Handover.Proofs.Observation
import Handover.Synthesis.Basic

/-!
# What a built CrdbNode declares

A CrdbNode is built from what was observed of a pod. Its stores are paired with explicit ones and
its failover volume is written with another path, but neither touches the templates: the volumes
that it declares are those of the node's storage, under the same names and with the storage
classes that were found. `CrdbNodes.IsBuilt` lists what else of the observation can be read off it.
-/

namespace Handover

open Kubernetes

/-! ## Templates -/

/-- The template that declares the volume of a descriptor. -/
def StorageDescriptor.template (d : StorageDescriptor) : ClaimTemplate where
  name := d.name
  storageClass := d.storageClass

/-- The template that a volume for failover declares. -/
def Kubernetes.WalFailoverSpec.template (wal : WalFailoverSpec) : ClaimTemplate where
  name := wal.name
  storageClass := wal.storageClassName

/-- The volumes that a CrdbNode declares by its stores and for failover. -/
def Kubernetes.CrdbNodeSpec.ownTemplates (spec : CrdbNodeSpec) : List ClaimTemplate :=
  spec.dataStores.map DataStore.template
    ++ (spec.walFailoverSpec.map WalFailoverSpec.template).toList

/-- The names of these volumes. -/
def Kubernetes.CrdbNodeSpec.volumeNames (spec : CrdbNodeSpec) : List String :=
  spec.ownTemplates.map (·.name)

/-- A CrdbNode with a store declares no default volume. -/
theorem Kubernetes.CrdbNodeSpec.templates_of_stores {spec : CrdbNodeSpec}
    (h : spec.dataStores ≠ []) : spec.templates = spec.ownTemplates := by
  rw [CrdbNodeSpec.templates, if_neg (by simpa using h)]
  rfl

/-! ## Failover -/

/-- The volume for failover in use is the one that is attached, mounted where the flag says. -/
theorem Storage.failover_of_eq_ok {index : Nat} {pod : String} {mode : WalFailover}
    {ds : List StorageDescriptor} {failover : Option StorageDescriptor}
    (h : Storage.failover index pod mode ds = .ok failover) :
    failover = none ∨ ∃ found path, ds.find? (·.name = Names.failoverVolume) = some found
      ∧ failover = some { found with mountPath := path } := by
  unfold Storage.failover at h
  split at h
  · exact .inl (Except.ok.inj h).symm
  · rename_i path _
    obtain ⟨found, hfound, h⟩ := Outcome.bind_eq_ok.mp h
    split at h
    · exact .inr ⟨found, path, Outcome.required_eq_ok.mp hfound, (Outcome.pure_eq_ok.mp h).symm⟩
    · cases h

namespace CrdbNodes

variable {o : ClusterObservation} {n : NodeObservation} {trust : TrustMap} {target : Target}
  {c : CrdbNode}

/-- In use or not, the volume for failover is declared under the name and class that it has. -/
theorem walFailoverSpec_template {index : Nat} {pod : String}
    (h : Storage.failover index pod n.walFailover n.storage = .ok n.failover) :
    (walFailoverSpec n).map WalFailoverSpec.template
      = n.failoverVolume?.map StorageDescriptor.template := by
  rcases Storage.failover_of_eq_ok h with hnone | ⟨found, path, hfound, hsome⟩
  · rw [walFailoverSpec, hnone, NodeObservation.idleFailover?, hnone]
    simp only [Option.isSome_none, Bool.false_eq_true, if_false, Option.map_map]
    rfl
  · rw [walFailoverSpec, hsome, NodeObservation.failoverVolume?, hfound]
    rfl

/-! ## Stores -/

/-- However stores are paired with volumes, there is one for each volume and in its order. What is
true of a store whatever its path and options are is true of it and its volume. -/
theorem pairStores_forall₂ {R : StorageDescriptor → DataStore → Prop}
    (hR : ∀ d path options, R d (dataStore d path options)) :
    ∀ (ds : List StorageDescriptor) (stores : List ExplicitStore),
      List.Forall₂ R ds (pairStores ds stores).1
  | [], _ => .nil
  | d :: ds, stores => by
    rw [pairStores]
    split
    · rename_i found rest _
      exact .cons (hR d _ _) (pairStores_forall₂ hR ds rest)
    · exact .cons (hR d _ _) (pairStores_forall₂ hR ds stores)

theorem dataStores_forall₂ {R : StorageDescriptor → DataStore → Prop}
    (hR : ∀ d path options, R d (dataStore d path options)) {stores : List DataStore}
    (h : dataStores n = .ok stores) : List.Forall₂ R n.dataStorage stores := by
  obtain ⟨explicit, -, h⟩ := Outcome.bind_eq_ok.mp h
  have hall := pairStores_forall₂ hR n.dataStorage explicit
  split at h
  · rename_i paired hpaired
    obtain rfl := Outcome.pure_eq_ok.mp h
    rwa [hpaired] at hall
  · cases h

theorem dataStores_map_eq {β : Type} {f : DataStore → β} {g : StorageDescriptor → β}
    (hf : ∀ d path options, f (dataStore d path options) = g d) {stores : List DataStore}
    (h : dataStores n = .ok stores) : stores.map f = n.dataStorage.map g := by
  have hall : List.Forall₂ (fun d s => g d = f s) n.dataStorage stores :=
    dataStores_forall₂ (fun d path options => (hf d path options).symm) h
  rw [eq_comm, ← List.forall₂_eq_eq_eq, List.forall₂_map_left_iff, List.forall₂_map_right_iff]
  exact hall

theorem dataStores_templates {stores : List DataStore} (h : dataStores n = .ok stores) :
    stores.map DataStore.template = n.dataStorage.map StorageDescriptor.template :=
  dataStores_map_eq (fun _ _ _ => rfl) h

/-! ## Nodes -/

/-- What of an observed node and its cluster can be read off the CrdbNode built for it. -/
structure IsBuilt (o : ClusterObservation) (n : NodeObservation) (target : Target)
    (c : CrdbNode) : Prop where
  name : c.name = n.podName
  stores : c.spec.dataStores.map DataStore.template
    = n.dataStorage.map StorageDescriptor.template
  failover : c.spec.walFailoverSpec = walFailoverSpec n
  logging : c.spec.loggingConfigMapName = o.logging.map (·.name)
  policy : PodPolicy.ofCrdbNode c.spec = { o.policy with
    image := target.image.or o.policy.image
    env := userEnv (o.policy.env ++ [hostAddress])
    labels := userLabels o.policy.labels }

theorem isBuilt (h : node o n trust target = .ok c) : IsBuilt o n target c := by
  obtain ⟨stores, hstores, h⟩ := Outcome.bind_eq_ok.mp h
  obtain rfl := Outcome.pure_eq_ok.mp h
  exact {
    name := rfl
    stores := dataStores_templates hstores
    failover := rfl
    logging := rfl
    policy := rfl }

/-- A built CrdbNode declares the volumes of the node's storage, that for failover last. -/
theorem IsBuilt.ownTemplates {index : Nat} {pod : String} (hc : IsBuilt o n target c)
    (h : Storage.failover index pod n.walFailover n.storage = .ok n.failover) :
    c.spec.ownTemplates
      = (n.dataStorage ++ n.failoverVolume?.toList).map StorageDescriptor.template := by
  rw [CrdbNodeSpec.ownTemplates, hc.stores, hc.failover, walFailoverSpec_template h,
    List.map_append, ← Option.toList_map]

/-- A built CrdbNode declares a volume exactly when one is in the node's storage. -/
theorem IsBuilt.mem_volumeNames {index : Nat} {pod : String} (hc : IsBuilt o n target c)
    (h : Storage.failover index pod n.walFailover n.storage = .ok n.failover) {volume : String} :
    volume ∈ c.spec.volumeNames ↔ ∃ d ∈ n.storage, d.name = volume := by
  rw [CrdbNodeSpec.volumeNames, hc.ownTemplates h, List.map_map]
  constructor
  · intro hmem
    obtain ⟨d, hd, rfl⟩ := List.mem_map.mp hmem
    rcases List.mem_append.mp hd with hd | hd
    · exact ⟨d, List.mem_of_mem_filter hd, rfl⟩
    · exact ⟨d, List.mem_of_find?_eq_some (Option.mem_toList.mp hd), rfl⟩
  · rintro ⟨d, hd, rfl⟩
    by_cases hname : d.name = Names.failoverVolume
    · -- the volume that is declared for failover is the first of that name, maybe another one
      have hsome : n.failoverVolume?.isSome := by
        rw [NodeObservation.failoverVolume?, List.find?_isSome]
        exact ⟨d, hd, by simpa using hname⟩
      obtain ⟨e, he⟩ := Option.isSome_iff_exists.mp hsome
      have hename : e.name = Names.failoverVolume := by simpa using List.find?_some he
      refine List.mem_map.mpr ⟨e, ?_, hename.trans hname.symm⟩
      exact List.mem_append_right _ (Option.mem_toList.mpr he)
    · refine List.mem_map.mpr ⟨d, List.mem_append_left _ ?_, rfl⟩
      exact List.mem_filter.mpr ⟨hd, by simpa using hname⟩

/-! ## Files -/

theorem files_eq_ok {files : List ManifestFile} :
    CrdbNodes.files o trust target = .ok files ↔
      ∃ built chart, List.Forall₂ (fun n c => node o n trust target = .ok c) o.nodes built
        ∧ values o built trust target = .ok chart
        ∧ files = manifests built chart := by
  simp only [CrdbNodes.files, Outcome.bind_eq_ok, Outcome.mapM_eq_ok, Outcome.pure_eq_ok]
  constructor
  · rintro ⟨built, hbuilt, chart, hchart, rfl⟩
    exact ⟨built, chart, hbuilt, hchart, rfl⟩
  · rintro ⟨built, chart, hbuilt, hchart, rfl⟩
    exact ⟨built, hbuilt, chart, hchart, rfl⟩

end CrdbNodes

/-- Only a cluster under a StatefulSet is turned into CrdbNodes. -/
theorem synthesize_toCrdbNodes_eq_ok {o : ClusterObservation} {trust : TrustMap} {target : Target}
    {files : List ManifestFile} :
    synthesize .toCrdbNodes o trust target = .ok files ↔
      o.source = .statefulSet ∧ CrdbNodes.files o trust target = .ok files := by
  cases hsource : o.source <;> simp [synthesize, hsource, Direction.ofSource]

end Handover
