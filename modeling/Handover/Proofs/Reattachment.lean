import Handover.Proofs.CrdbNodes
import Handover.Proofs.StorageIdentity

/-!
# Which data the operator attaches

The operator knows the volumes that a CrdbNode declares and derives the name of each claim from
the volume and the node. The way to CrdbNodes relies on the source's claims having these names
but looks only at how they end, while the way back refuses every other name. So the operator
looks for the very claims that a node's pod mounts exactly when the way back would take them
(`reattaches_iff`). A claim of another cluster goes through when its name ends in that of the
node, and the operator looks for a claim that no pod mounts.
-/

namespace Handover

open Kubernetes

/-! ## The check of the way back -/

namespace LegacyChart

/-- The claims of a node can be bound when each is named after its volume and its pod. -/
theorem exists_claims_eq_ok {o : ClusterObservation} {n : NodeObservation} :
    (∃ claims, LegacyChart.claims o n = .ok claims) ↔
      ∀ d ∈ n.storage, d.claimName = Names.claimName d.name n.podName := by
  rw [LegacyChart.claims, Outcome.exists_mapM_eq_ok]
  refine forall₂_congr fun d _ => ?_
  rw [boundClaim]
  by_cases hname : d.claimName = Names.claimName d.name n.podName <;> simp [hname]

end LegacyChart

/-! ## What the operator finds -/

/-- For every volume that a CrdbNode declares, the claim that the operator derives is the one that
a pod mounts. -/
def ObjectStore.Reattaches (store : ObjectStore) (ns pod : String) (c : CrdbNode) : Prop :=
  ∀ volume ∈ c.spec.volumeNames, store.Mounts ns pod volume (Names.claimName volume c.name)

/-- A pod mounts every volume that a CrdbNode declares, under a claim that is named after the
node. -/
def ObjectStore.MountsAll (store : ObjectStore) (ns pod : String) (c : CrdbNode) : Prop :=
  ∀ volume ∈ c.spec.volumeNames, ∃ claimName, store.Mounts ns pod volume claimName
    ∧ Text.endsWith claimName s!"-{c.name}" = true

section Observed

variable {store : ObjectStore} {source : Source} {ns cluster : String} {inventory : Inventory}
  {o : ClusterObservation} {trust : TrustMap} {target : Target} {i : Nat} {n : NodeObservation}
  {c : CrdbNode}

/-- The CrdbNode of a node declares what is in the node's storage. -/
theorem mem_volumeNames_of_observe (hobserve : observe inventory = .ok o)
    (hn : o.nodes[i]? = some n) (hc : CrdbNodes.node o n trust target = .ok c) {volume : String} :
    volume ∈ c.spec.volumeNames ↔ ∃ d ∈ n.storage, d.name = volume := by
  obtain ⟨_, -, -, hnodes⟩ := nodes_of_observe hobserve
  obtain ⟨pod, -, hobserved⟩ := hnodes hn
  obtain ⟨container, -, -, -, -, hfailover, -⟩ := observeNode_eq_ok.mp hobserved
  exact (CrdbNodes.isBuilt hc).mem_volumeNames hfailover

/-- The CrdbNode of a node carries the name of the node's pod. -/
theorem name_of_built (hread : Inventory.read store source ns cluster = .ok inventory)
    (hobserve : observe inventory = .ok o) (hn : o.nodes[i]? = some n)
    (hc : CrdbNodes.node o n trust target = .ok c) : c.name = Names.nodeName cluster i := by
  obtain ⟨-, hpod, -⟩ := storage_of_observe hread hobserve hn
  exact (CrdbNodes.isBuilt hc).name.trans hpod

/-- What was observed of a node's storage holds of the volumes that its CrdbNode declares. -/
theorem mountsAll_of_built (hread : Inventory.read store source ns cluster = .ok inventory)
    (hobserve : observe inventory = .ok o) (hn : o.nodes[i]? = some n)
    (hc : CrdbNodes.node o n trust target = .ok c) :
    store.MountsAll ns (Names.nodeName cluster i) c := by
  obtain ⟨-, -, hstorage⟩ := storage_of_observe hread hobserve hn
  intro volume hvolume
  obtain ⟨d, hd, rfl⟩ := (mem_volumeNames_of_observe hobserve hn hc).mp hvolume
  obtain ⟨hmounts, -, hends⟩ := hstorage d hd
  rw [name_of_built hread hobserve hn hc]
  exact ⟨d.claimName, hmounts, hends⟩

/-- The operator finds the claims of a node exactly when each has the name that the way back
asks for. -/
theorem reattaches_iff (hread : Inventory.read store source ns cluster = .ok inventory)
    (hobserve : observe inventory = .ok o) (hn : o.nodes[i]? = some n)
    (hc : CrdbNodes.node o n trust target = .ok c) :
    store.Reattaches ns (Names.nodeName cluster i) c ↔
      ∃ claims, LegacyChart.claims o n = .ok claims := by
  obtain ⟨-, hpod, hstorage⟩ := storage_of_observe hread hobserve hn
  have hname : c.name = n.podName := (CrdbNodes.isBuilt hc).name
  rw [LegacyChart.exists_claims_eq_ok, ← hname]
  constructor
  · intro h d hd
    have hvolume : d.name ∈ c.spec.volumeNames :=
      (mem_volumeNames_of_observe hobserve hn hc).mpr ⟨d, hd, rfl⟩
    exact (hstorage d hd).1.unique (h d.name hvolume)
  · intro h volume hvolume
    obtain ⟨d, hd, rfl⟩ := (mem_volumeNames_of_observe hobserve hn hc).mp hvolume
    rw [← h d hd]
    exact (hstorage d hd).1

end Observed

/-! ## Runs -/

/-- What the CrdbNodes that a run emits say about the storage of the source: they carry the names
of the nodes, declare only volumes whose claims are named after the node, and give the operator
the right claims exactly where the way back would take the node's claims. -/
structure ClusterObservation.HandsStorageTo (o : ClusterObservation) (store : ObjectStore)
    (ns cluster : String) (built : List CrdbNode) : Prop where
  length : built.length = o.nodes.length
  name : ∀ {i : Nat} {c : CrdbNode}, built[i]? = some c → c.name = Names.nodeName cluster i
  mounts : ∀ {i : Nat} {c : CrdbNode}, built[i]? = some c →
    store.MountsAll ns (Names.nodeName cluster i) c
  reattaches : ∀ {i : Nat} {n : NodeObservation} {c : CrdbNode}, o.nodes[i]? = some n →
    built[i]? = some c → (store.Reattaches ns (Names.nodeName cluster i) c ↔
      ∃ claims, LegacyChart.claims o n = .ok claims)

/-- A successful synthesis emits CrdbNodes under which the operator attaches the data of the
source exactly on the nodes whose claims have the names of the convention. -/
theorem synthesize_handsStorage {store : ObjectStore} {source : Source} {ns cluster : String}
    {inventory : Inventory} {o : ClusterObservation} {trust : TrustMap} {target : Target}
    {files : List ManifestFile}
    (hread : Inventory.read store source ns cluster = .ok inventory)
    (hobserve : observe inventory = .ok o)
    (hfiles : synthesize .toCrdbNodes o trust target = .ok files) :
    ∃ built chart, o.nodes.mapM (fun n => CrdbNodes.node o n trust target) = .ok built
      ∧ files = CrdbNodes.manifests built chart
      ∧ o.HandsStorageTo store ns cluster built := by
  obtain ⟨-, hfiles⟩ := synthesize_toCrdbNodes_eq_ok.mp hfiles
  obtain ⟨built, chart, hbuilt, -, rfl⟩ := CrdbNodes.files_eq_ok.mp hfiles
  have hnode {i : Nat} {c : CrdbNode} (hc : built[i]? = some c) :
      ∃ n, o.nodes[i]? = some n ∧ CrdbNodes.node o n trust target = .ok c :=
    getElem?_of_forall₂ hbuilt hc
  refine ⟨built, chart, Outcome.mapM_eq_ok.mpr hbuilt, rfl, hbuilt.length_eq.symm,
    fun hc => ?_, fun hc => ?_, fun hn hc => ?_⟩
  · obtain ⟨n, hn, hc⟩ := hnode hc
    exact name_of_built hread hobserve hn hc
  · obtain ⟨n, hn, hc⟩ := hnode hc
    exact mountsAll_of_built hread hobserve hn hc
  · obtain ⟨n', hn', hc⟩ := hnode hc
    obtain rfl := Option.some.inj (hn.symm.trans hn')
    exact reattaches_iff hread hobserve hn hc

/-- The small cluster is emitted as two CrdbNodes and the values. -/
theorem smallCluster_handsStorage :
    ∃ inventory o files,
      Inventory.read (SmallCluster.store [] Names.claimName) .statefulSet "n" "c-1" = .ok inventory
        ∧ observe inventory = .ok o
        ∧ synthesize .toCrdbNodes o {} { region := some "r" } = .ok files
        ∧ files.length = 3
        ∧ ∃ built chart,
          o.nodes.mapM (fun n => CrdbNodes.node o n {} { region := some "r" }) = .ok built
            ∧ files = CrdbNodes.manifests built chart
            ∧ o.HandsStorageTo (SmallCluster.store [] Names.claimName) "n" "c-1" built := by
  have hcount : (Inventory.read (SmallCluster.store [] Names.claimName) .statefulSet "n" "c-1"
      >>= observe >>= fun o => synthesize .toCrdbNodes o {} { region := some "r" }).map
        List.length = .ok 3 := by
    decide +kernel
  obtain ⟨files, hfiles, hlength⟩ := Outcome.map_eq_ok.mp hcount
  obtain ⟨o, ho, hfiles⟩ := Outcome.bind_eq_ok.mp hfiles
  obtain ⟨inventory, hread, hobserve⟩ := Outcome.bind_eq_ok.mp ho
  exact ⟨inventory, o, files, hread, hobserve, hfiles, hlength,
    synthesize_handsStorage hread hobserve hfiles⟩

/-- A claim of another cluster is handed over when its name ends in that of the node. -/
theorem not_always_reattached :
    ¬ ∀ (store : ObjectStore) (source : Source) (ns cluster : String) (inventory : Inventory)
        (o : ClusterObservation) (trust : TrustMap) (target : Target) (files : List ManifestFile)
        (built : List CrdbNode) (i : Nat) (c : CrdbNode),
      Inventory.read store source ns cluster = .ok inventory → observe inventory = .ok o →
      synthesize .toCrdbNodes o trust target = .ok files →
      o.nodes.mapM (fun n => CrdbNodes.node o n trust target) = .ok built →
      built[i]? = some c → store.Reattaches ns (Names.nodeName cluster i) c := by
  intro halways
  -- each volume of the small cluster is a claim of the cluster `o-c-1`, which ends in `-c-1`
  let foreign (volume pod : String) : String := s!"{volume}-o-{pod}"
  have hrun : (do
      let inventory ← Inventory.read (SmallCluster.store [] foreign) .statefulSet "n" "c-1"
      let o ← observe inventory
      let files ← synthesize .toCrdbNodes o {} { region := some "r" }
      let built ← o.nodes.mapM (fun n => CrdbNodes.node o n {} { region := some "r" })
      return (files.length, built.length, (LegacyChart.claims o o.first).toOption.isSome)
        : Outcome (Nat × Nat × Bool)) = .ok (3, 2, false) := by
    decide +kernel
  obtain ⟨inventory, hread, hrun⟩ := Outcome.bind_eq_ok.mp hrun
  obtain ⟨o, hobserve, hrun⟩ := Outcome.bind_eq_ok.mp hrun
  obtain ⟨files, hfiles, hrun⟩ := Outcome.bind_eq_ok.mp hrun
  obtain ⟨built, hbuilt, hrun⟩ := Outcome.bind_eq_ok.mp hrun
  obtain ⟨-, hlength, hrefused⟩ : files.length = 3 ∧ built.length = 2
      ∧ (LegacyChart.claims o o.first).toOption.isSome = false := by
    simpa using Outcome.pure_eq_ok.mp hrun
  have hc : built[0]? = some built[0] := List.getElem?_eq_getElem (by omega)
  obtain ⟨n, hn, hnode⟩ := getElem?_of_forall₂ (Outcome.mapM_eq_ok.mp hbuilt) hc
  obtain rfl : o.first = n := Option.some.inj hn
  have hattached := halways _ _ _ _ _ _ _ _ _ _ _ _ hread hobserve hfiles hbuilt hc
  obtain ⟨claims, hclaims⟩ := (reattaches_iff hread hobserve hn hnode).mp hattached
  rw [hclaims] at hrefused
  cases hrefused

end Handover
