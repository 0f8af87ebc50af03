import Handover.Proofs.Inventory
import Handover.Proofs.Names
import Handover.Proofs.Observation

/-!
# Identity of storage

The data of a node is where its claims are, so an observation must not take one claim for
another. A descriptor names a volume of the node's own pod and speaks of the claim behind that
very volume (`storage_of_observe`). That no claim belongs to two nodes is nowhere checked; it
follows from the one thing that is checked of a claim's name, its end.
-/

namespace Handover

open Kubernetes

/-! ## Volumes and claims in a store -/

/-- The first volume of a name on a pod in the store refers to a claim. -/
def ObjectStore.Mounts (store : ObjectStore) (ns pod volume claimName : String) : Prop :=
  ∃ p spec, store.pod? ns pod = some p ∧ p.spec = some spec ∧ spec.Refers volume claimName

/-- A descriptor says of a claim what the claim in the store says. -/
def ObjectStore.Describes (store : ObjectStore) (ns : String) (d : StorageDescriptor) : Prop :=
  ∃ claim spec, store.claim? ns d.claimName = some claim ∧ claim.spec = some spec
    ∧ claim.Requests d.size ∧ d.volumeName = spec.volumeName
    ∧ d.accessModes = spec.accessModes.getD []

/-- A claim is mounted under at most one name, so what a pod mounts under a volume is one claim. -/
theorem ObjectStore.Mounts.unique {store : ObjectStore} {ns pod volume a b : String}
    (ha : store.Mounts ns pod volume a) (hb : store.Mounts ns pod volume b) : a = b := by
  obtain ⟨p, spec, hp, hspec, ha⟩ := ha
  obtain ⟨p', spec', hp', hspec', hb⟩ := hb
  obtain rfl := Option.some.inj (hp.symm.trans hp')
  obtain rfl := Option.some.inj (hspec.symm.trans hspec')
  exact ha.unique hb

/-! ## What stands behind a template -/

section Behind

variable {place : Storage.Place} {spec : PodSpec} {container : Container}
  {claims : KeyMap String Claim} {template : ClaimTemplate} {claim : Claim}
  {d : StorageDescriptor}

/-- The claim of a descriptor is the one that the pod mounts under the descriptor's name. -/
theorem Storage.Behind.mounts {store : ObjectStore} {ns name : String} {pod : Pod}
    (h : Storage.Behind place spec container claims template claim d)
    (hpod : store.pod? ns name = some pod) (hspec : pod.spec = some spec) :
    store.Mounts ns name d.name d.claimName :=
  ⟨pod, spec, hpod, hspec, h.name ▸ h.mounted⟩

theorem Storage.Behind.describes {store : ObjectStore} {ns : String}
    (h : Storage.Behind place spec container claims template claim d)
    (hclaims : Inventory.ClaimsFrom store ns claims) : store.Describes ns d := by
  obtain ⟨cs, _, _, hcs, -⟩ := h.size
  refine ⟨claim, cs, hclaims h.found, hcs, h.size, ?_, ?_⟩
  · rw [h.volumeName, hcs, Option.bind_some]
  · rw [h.accessModes, hcs, Option.bind_some]

theorem Storage.Behind.endsWith
    (h : Storage.Behind place spec container claims template claim d) :
    Text.endsWith d.claimName s!"-{place.pod}" = true :=
  h.owned.owner

end Behind

/-! ## Storage of an observed cluster -/

/-- Storage is observed where it is. Every descriptor of a node names a volume of the pod with the
node's number and gives the claim behind that volume, with what the store says of the claim; and
no claim is in the storage of two nodes. -/
structure ClusterObservation.StorageFrom (o : ClusterObservation) (store : ObjectStore)
    (ns cluster : String) : Prop where
  podName : ∀ {i : Nat} {n : NodeObservation}, o.nodes[i]? = some n →
    n.index = i ∧ n.podName = Names.nodeName cluster i
  mounts : ∀ {i : Nat} {n : NodeObservation}, o.nodes[i]? = some n → ∀ d ∈ n.storage,
    store.Mounts ns (Names.nodeName cluster i) d.name d.claimName
  describes : ∀ {i : Nat} {n : NodeObservation}, o.nodes[i]? = some n → ∀ d ∈ n.storage,
    store.Describes ns d
  exclusive : ∀ {i j : Nat} {m n : NodeObservation}, o.nodes[i]? = some m →
    o.nodes[j]? = some n → ∀ d ∈ m.storage, ∀ e ∈ n.storage, d.claimName = e.claimName → i = j

section Observed

variable {store : ObjectStore} {source : Source} {ns cluster : String} {inventory : Inventory}
  {o : ClusterObservation}

/-- The node with a number was observed on the pod of that number, and each of its descriptors
speaks of a claim that this pod mounts and that is named after it. -/
theorem storage_of_observe (hread : Inventory.read store source ns cluster = .ok inventory)
    (hobserve : observe inventory = .ok o) {i : Nat} {n : NodeObservation}
    (hn : o.nodes[i]? = some n) :
    n.index = i ∧ n.podName = Names.nodeName cluster i
      ∧ ∀ d ∈ n.storage, store.Mounts ns (Names.nodeName cluster i) d.name d.claimName
        ∧ store.Describes ns d
        ∧ Text.endsWith d.claimName s!"-{Names.nodeName cluster i}" = true := by
  have hinv := Inventory.isRead hread
  obtain ⟨_, -, -, hnodes⟩ := nodes_of_observe hobserve
  obtain ⟨pod, hpod, hobserved⟩ := hnodes hn
  obtain ⟨container, -, -, -, hresolve, -, hindex, hname, -⟩ := observeNode_eq_ok.mp hobserved
  obtain ⟨spec, host, hspec, -, hall⟩ := Storage.resolve_eq_ok.mp hresolve
  have hpodName := hinv.nameText hpod
  refine ⟨hindex, hname.trans hpodName, fun d hd => ?_⟩
  obtain ⟨k, hk⟩ := List.mem_iff_getElem?.mp hd
  obtain ⟨template, -, claim, hbehind⟩ := getElem?_of_forall₂ hall hk
  rw [hpodName] at hbehind
  obtain ⟨spec', hreadPod⟩ := hinv.pod hpod
  obtain ⟨hstored, -, -⟩ := Inventory.readPod_eq_ok.mp hreadPod
  exact ⟨hbehind.mounts hstored hspec, hbehind.describes hinv.claims, hbehind.endsWith⟩

/-- Reading and observing keep the identity of storage, for every number of nodes and every name
of a cluster. -/
theorem observe_storageFrom
    (hread : Inventory.read store source ns cluster = .ok inventory)
    (hobserve : observe inventory = .ok o) : o.StorageFrom store ns cluster where
  podName hn := by
    obtain ⟨hindex, hname, -⟩ := storage_of_observe hread hobserve hn
    exact ⟨hindex, hname⟩
  mounts hn d hd := by
    obtain ⟨-, -, hstorage⟩ := storage_of_observe hread hobserve hn
    exact (hstorage d hd).1
  describes hn d hd := by
    obtain ⟨-, -, hstorage⟩ := storage_of_observe hread hobserve hn
    exact (hstorage d hd).2.1
  exclusive hm hn d hd e he hclaim := by
    obtain ⟨-, -, hstorage⟩ := storage_of_observe hread hobserve hm
    obtain ⟨-, -, hstorage'⟩ := storage_of_observe hread hobserve hn
    have hi := (hstorage d hd).2.2
    have hj := (hstorage' e he).2.2
    rw [← hclaim] at hj
    exact Names.eq_of_endsWith_nodeName hi hj

end Observed

/-- The small cluster, whose own name ends in a dash and a numeral, can be read and observed. -/
theorem smallCluster_storageFrom :
    ∃ inventory o,
      Inventory.read (SmallCluster.store [] Names.claimName) .statefulSet "n" "c-1" = .ok inventory
        ∧ observe inventory = .ok o
        ∧ o.nodes.map (·.storage.length) = [2, 2]
        ∧ o.StorageFrom (SmallCluster.store [] Names.claimName) "n" "c-1" := by
  have hcount : (Inventory.read (SmallCluster.store [] Names.claimName) .statefulSet "n" "c-1"
      >>= observe).map (fun o => o.nodes.map (·.storage.length)) = .ok [2, 2] := by
    decide +kernel
  obtain ⟨o, ho, hlength⟩ := Outcome.map_eq_ok.mp hcount
  obtain ⟨inventory, hread, hobserve⟩ := Outcome.bind_eq_ok.mp ho
  exact ⟨inventory, o, hread, hobserve, hlength, observe_storageFrom hread hobserve⟩

end Handover
