import Handover.Proofs.FileNames
import Handover.Proofs.OperatorCluster

/-!
# Claims on the way to a StatefulSet

A StatefulSet looks for a claim by the name of the volume and the name of the pod. For its pods to
find the data where it is, the claims that are written must be those that the pods mount already,
bound to the same volumes (`ObjectStore.Adopts`). One is written for each volume that a node's own
CrdbNode declares, and a claim that has another name keeps the whole cluster from being turned
into a StatefulSet (`synthesize_toStatefulSet_claims`).
-/

namespace Handover

open Kubernetes Manifest

/-- A written claim is the one that a pod mounts under a declared volume: the StatefulSet looks
for this name, and the claim is bound to the same volume and asks for the same storage as the one
in the store. What the claim in the store leaves open stays open, except for the storage class, for
which the declaration stands in. -/
structure ObjectStore.Adopts (store : ObjectStore) (ns pod : String) (template : ClaimTemplate)
    (written : Claim) : Prop where
  name : written.metadata.name = some (Names.claimName template.name pod)
  ns_eq : written.metadata.ns = some ns
  mounted : store.Mounts ns pod template.name (Names.claimName template.name pod)
  bound : ∃ claim spec bound, store.claim? ns (Names.claimName template.name pod) = some claim
    ∧ claim.spec = some spec ∧ written.spec = some bound
    ∧ bound.volumeName = spec.volumeName
    ∧ (∃ size, claim.Requests size ∧ written.Requests size)
    ∧ bound.accessModes = spec.accessModes.filter (!·.isEmpty)
    ∧ bound.storageClassName = spec.storageClassName.or template.storageClass

namespace LegacyChart

variable {store : ObjectStore} {ns : String} {o : ClusterObservation} {n : NodeObservation}
  {template : ClaimTemplate} {templates : List ClaimTemplate} {d : StorageDescriptor}

/-- Access modes are written unless there are none. -/
theorem written_modes (modes : Option (List String)) :
    (if (modes.getD []).isEmpty then none else some (modes.getD []))
      = modes.filter (!·.isEmpty) := by
  rcases modes with _ | _ | ⟨mode, modes⟩ <;> rfl

/-- The claim that is written for a volume is the one behind it, when it has the right name. -/
theorem adopts_adopted (hns : o.ns = ns) (hname : d.claimName = Names.claimName d.name n.podName)
    (h : store.Backs ns n.podName template d) :
    store.Adopts ns n.podName template (adopted o n d) := by
  obtain ⟨claim, spec, hclaim, hspec, hsize, hvolume, hmodes, hclass⟩ := h.claim
  have hmounted := h.mounted
  rw [h.name] at hname
  rw [hname] at hclaim hmounted
  exact {
    name := congrArg (fun name => some (Names.claimName name n.podName)) h.name
    ns_eq := congrArg some hns
    mounted := hmounted
    bound := ⟨claim, spec, _, hclaim, hspec, rfl, hvolume,
      ⟨d.size, hsize, Claim.storage?_eq_some_iff.mp rfl⟩,
      by rw [← written_modes, ← hmodes], hclass⟩ }

/-- The claims that are written for a node are those of the volumes that are declared for it. -/
theorem adopts_claims (hns : o.ns = ns) (hadoptable : Adoptable n)
    (h : List.Forall₂ (store.Backs ns n.podName) templates n.storage) :
    List.Forall₂ (store.Adopts ns n.podName) templates (n.storage.map (adopted o n)) := by
  refine List.forall₂_map_right_iff.mpr (forall₂_of_getElem? h.length_eq ?_)
  intro i template d htemplate hd
  obtain ⟨template', htemplate', hbacks⟩ := getElem?_of_forall₂ h hd
  obtain rfl := Option.some.inj (htemplate.symm.trans htemplate')
  exact adopts_adopted hns (hadoptable d (List.mem_of_getElem? hd)) hbacks

/-- A node that mounts a claim of another name under a declared volume is not adopted. -/
theorem not_adoptable_of_foreign {claimName : String}
    (h : List.Forall₂ (store.Backs ns n.podName) templates n.storage)
    (hdeclared : template ∈ templates)
    (hmounted : store.Mounts ns n.podName template.name claimName)
    (hforeign : claimName ≠ Names.claimName template.name n.podName) : ¬ Adoptable n := by
  intro hadoptable
  obtain ⟨i, hi⟩ := List.mem_iff_getElem?.mp hdeclared
  obtain ⟨d, hd, hbacks⟩ := getElem?_of_forall₂ h.flip hi
  have hname := hadoptable d (List.mem_of_getElem? hd)
  rw [hbacks.name] at hname
  exact hforeign ((hmounted.unique hbacks.mounted).trans hname)

end LegacyChart

variable {store : ObjectStore} {ns cluster : String} {inventory : Inventory}
  {o : ClusterObservation}

/-- No data is lost or moved on the way to a StatefulSet: there is a file for each node, with one
claim for each volume that its CrdbNode declares, in their order, and each claim is the one that
the node's pod mounts under that volume. A pod that mounts a claim of any other name keeps the
cluster from being turned into a StatefulSet. -/
theorem synthesize_toStatefulSet_claims
    (hread : Inventory.read store .crdbNode ns cluster = .ok inventory)
    (hobserve : observe inventory = .ok o) (trust : TrustMap) (target : Target) :
    ∃ nodes, inventory.controller = .crdbNodes nodes ∧ nodes.length = o.nodes.length
      ∧ ∀ (i : Nat) (c : CrdbNode), nodes[i]? = some c →
        (c ∈ store.crdbNodesOf ns cluster ∧ Names.ordinalOf? cluster c.name = some i)
          ∧ (∀ files, synthesize .toStatefulSet o trust target = .ok files →
            ∃ claims, files.filter (·.name = s!"persistentvolumeclaim-{i}.yaml")
                = [⟨s!"persistentvolumeclaim-{i}.yaml", claims.map Claim.codec.write⟩]
              ∧ List.Forall₂ (store.Adopts ns (Names.nodeName cluster i)) c.spec.templates claims)
          ∧ ∀ template ∈ c.spec.templates, ∀ claimName,
            store.Mounts ns (Names.nodeName cluster i) template.name claimName →
            claimName ≠ Names.claimName template.name (Names.nodeName cluster i) →
            ∃ failure, synthesize .toStatefulSet o trust target = .error failure := by
  obtain ⟨nodes, hcontroller, hdeclared⟩ := declaredBy_of_observe hread hobserve
  refine ⟨nodes, hcontroller, hdeclared.length_eq, fun i c hc => ⟨hdeclared.listed hc, ?_, ?_⟩⟩
  all_goals
    obtain ⟨n, hn⟩ := hdeclared.exists_node hc
    obtain ⟨hindex, hpod⟩ := hdeclared.named hn
    have hbacks := hdeclared.storage hc hn
    have hmem := List.mem_of_getElem? hn
    rw [← hpod] at hbacks ⊢
  · intro files hfiles
    have hnames := sideBySide_of_synthesize hread hobserve hfiles
    obtain ⟨-, hfiles⟩ := synthesize_toStatefulSet_eq_ok.mp hfiles
    obtain ⟨-, hadoptable, chart, -, rfl⟩ := LegacyChart.files_eq_ok.mp hfiles
    have hfile : LegacyChart.adoptedFile o n ∈ LegacyChart.manifests o chart :=
      List.mem_append_left _ (List.mem_map_of_mem hmem)
    refine ⟨n.storage.map (LegacyChart.adopted o n), ?_,
      LegacyChart.adopts_claims hdeclared.ns_eq (hadoptable n hmem) hbacks⟩
    rw [← hindex]
    exact filter_name_of_mem hnames hfile
  · intro template htemplate claimName hmounted hforeign
    have hrefused := LegacyChart.not_adoptable_of_foreign hbacks htemplate hmounted hforeign
    cases hfiles : synthesize .toStatefulSet o trust target with
    | error failure => exact ⟨failure, rfl⟩
    | ok files =>
      obtain ⟨-, hfiles⟩ := synthesize_toStatefulSet_eq_ok.mp hfiles
      obtain ⟨-, hadoptable, -⟩ := LegacyChart.files_eq_ok.mp hfiles
      exact absurd (hadoptable n hmem) hrefused

/-- The claims of the small cluster, of which the second node declares a volume for failover too,
are adopted. With claims of another cluster, which end like its own, it is refused. -/
theorem smallCluster_boundClaims :
    (∃ inventory o files claims,
      Inventory.read (SmallCluster.operatorStore Names.claimName SmallCluster.storeOnly
          SmallCluster.storeAndFailover) .crdbNode "n" "c-1" = .ok inventory
        ∧ observe inventory = .ok o ∧ synthesize .toStatefulSet o {} {} = .ok files
        ∧ files.filter (·.name = s!"persistentvolumeclaim-{1}.yaml")
          = [⟨s!"persistentvolumeclaim-{1}.yaml", claims.map Claim.codec.write⟩]
        ∧ List.Forall₂ (ObjectStore.Adopts (SmallCluster.operatorStore Names.claimName
            SmallCluster.storeOnly SmallCluster.storeAndFailover) "n" "c-1-1")
          SmallCluster.storeAndFailover.templates claims)
    ∧ ∃ inventory o failure,
      Inventory.read (SmallCluster.operatorStore SmallCluster.foreignName SmallCluster.storeOnly
          SmallCluster.storeOnly) .crdbNode "n" "c-1" = .ok inventory
        ∧ observe inventory = .ok o ∧ synthesize .toStatefulSet o {} {} = .error failure := by
  constructor
  · obtain ⟨inventory, o, files, hread, hcontroller, hobserve, hfiles⟩ :=
      SmallCluster.exists_observed Names.claimName SmallCluster.storeOnly
        SmallCluster.storeAndFailover (fun o => synthesize .toStatefulSet o {} {})
        (by decide +kernel)
    obtain ⟨nodes, hnodes, -, hclaims⟩ := synthesize_toStatefulSet_claims hread hobserve {} {}
    obtain rfl := Controller.crdbNodes.inj (hnodes.symm.trans hcontroller)
    obtain ⟨-, hwritten, -⟩ := hclaims 1 _ rfl
    obtain ⟨claims, hfile, hadopted⟩ := hwritten files hfiles
    exact ⟨inventory, o, files, claims, hread, hobserve, hfiles, hfile, hadopted⟩
  · obtain ⟨inventory, o, -, hread, hcontroller, hobserve, -⟩ :=
      SmallCluster.exists_observed SmallCluster.foreignName SmallCluster.storeOnly
        SmallCluster.storeOnly Except.ok (by decide +kernel)
    obtain ⟨nodes, hnodes, -, hclaims⟩ := synthesize_toStatefulSet_claims hread hobserve {} {}
    obtain rfl := Controller.crdbNodes.inj (hnodes.symm.trans hcontroller)
    obtain ⟨-, -, hrefused⟩ := hclaims 0 _ rfl
    have hmounted : ObjectStore.Mounts (SmallCluster.operatorStore SmallCluster.foreignName
        SmallCluster.storeOnly SmallCluster.storeOnly) "n" "c-1-0" "d" "d-o-c-1-0" :=
      ⟨SmallCluster.pod ["start"] SmallCluster.foreignName "c-1-0", _, by decide +kernel, rfl,
        PodSpec.claimName?_eq_some_iff.mp rfl⟩
    obtain ⟨failure, hfailure⟩ := hrefused { name := "d" } (by decide) "d-o-c-1-0" hmounted
      (by decide)
    exact ⟨inventory, o, failure, hread, hobserve, hfailure⟩

end Handover
