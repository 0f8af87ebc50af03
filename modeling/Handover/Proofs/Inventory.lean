import Handover.Inventory
import Handover.Proofs.Outcome

/-!
# What an inventory says about the store

Reading a cluster copies objects and never makes any. `Inventory.IsRead` says of an inventory
whose reading succeeded where in the store each of its objects stands: its pods are those of the
numbers from zero on, and whatever claim it gives for a name is the claim of that name in the
namespace. That an object in the store carries the name under which it is found is part of the
type of the store.
-/

namespace Handover

open Kubernetes

namespace ObjectStore

/-- A pod is found under its own name. -/
theorem nameText_of_pod? {store : ObjectStore} {ns name : String} {pod : Pod}
    (h : store.pod? ns name = some pod) : pod.metadata.nameText = name :=
  congrArg ObjectKey.name (Objects.of_get? h)

end ObjectStore

namespace Inventory

variable {store : ObjectStore} {ns cluster : String}

/-! ## Pods -/

theorem readPod_eq_ok {ordinal : Nat} {pod : Pod} {spec : PodSpec} :
    readPod store ns cluster ordinal = .ok (pod, spec) ↔
      store.pod? ns (Names.nodeName cluster ordinal) = some pod ∧ pod.spec = some spec
        ∧ spec.nodeName.getD "" ≠ "" := by
  simp only [readPod, Outcome.bind_eq_ok, Outcome.required_eq_ok, Outcome.check_eq_ok,
    Outcome.pure_eq_ok, String.isEmpty_iff]
  constructor
  · rintro ⟨pod, hpod, spec, hspec, hhost, h⟩
    obtain ⟨rfl, rfl⟩ := Prod.mk.inj h
    exact ⟨hpod, hspec, hhost⟩
  · rintro ⟨hpod, hspec, hhost⟩
    exact ⟨pod, hpod, spec, hspec, hhost, rfl⟩

/-- Every claim in a map stands in the store under its name. -/
def ClaimsFrom (store : ObjectStore) (ns : String) (claims : KeyMap String Claim) : Prop :=
  ∀ {name claim}, claims.get? name = some claim → store.claim? ns name = some claim

theorem claimsFrom_empty : ClaimsFrom store ns .empty := fun h => nomatch h

/-- One more claim is read under the name that it has in the store. -/
theorem ClaimsFrom.readClaim {claims claims' : KeyMap String Claim} {name : String}
    (hc : ClaimsFrom store ns claims) (h : readClaim store ns claims name = .ok claims') :
    ClaimsFrom store ns claims' := by
  obtain ⟨claim, hclaim, h⟩ := Outcome.bind_eq_ok.mp h
  obtain rfl := Outcome.pure_eq_ok.mp h
  intro name' claim' hget
  rw [KeyMap.get?_insert] at hget
  split at hget
  · rename_i heq
    obtain rfl := Option.some.inj hget
    exact heq ▸ Outcome.required_eq_ok.mp hclaim
  · exact hc hget

/-- The pods that were read, and the claims with theirs, come from the store. -/
theorem readPods_eq_ok : ∀ {count start : Nat} {claims claims' : KeyMap String Claim}
    {pods : List Pod}, ClaimsFrom store ns claims →
      readPods store ns cluster count start claims = .ok (pods, claims') →
      pods.length = count ∧ ClaimsFrom store ns claims'
        ∧ ∀ {i pod}, pods[i]? = some pod →
          ∃ spec, readPod store ns cluster (start + i) = .ok (pod, spec)
  | 0, start, claims, claims', pods, hc, h => by
    obtain ⟨rfl, rfl⟩ := Prod.mk.inj (Except.ok.inj h)
    exact ⟨rfl, hc, fun h => nomatch h⟩
  | count + 1, start, claims, claims', pods, hc, h => by
    obtain ⟨⟨pod, spec⟩, hpod, h⟩ := Outcome.bind_eq_ok.mp h
    obtain ⟨claims₁, hclaims₁, h⟩ := Outcome.bind_eq_ok.mp h
    obtain ⟨⟨pods₁, claims₂⟩, hpods₁, h⟩ := Outcome.bind_eq_ok.mp h
    obtain ⟨rfl, rfl⟩ := Prod.mk.inj (Outcome.pure_eq_ok.mp h)
    have hc₁ : ClaimsFrom store ns claims₁ :=
      Outcome.foldlM_keeps ClaimsFrom.readClaim hc hclaims₁
    obtain ⟨hlen, hc₂, hread⟩ := readPods_eq_ok hc₁ hpods₁
    refine ⟨by rw [List.length_cons, hlen], hc₂, ?_⟩
    intro i pod' hi
    cases i with
    | zero =>
      obtain rfl := Option.some.inj hi
      exact ⟨spec, hpod⟩
    | succ i =>
      obtain ⟨spec', h'⟩ := hread hi
      exact ⟨spec', by rwa [Nat.add_assoc, Nat.add_comm 1] at h'⟩

/-! ## Inventories -/

/-- Where the objects of an inventory stand in the store that it was read from. -/
structure IsRead (store : ObjectStore) (source : Source) (ns cluster : String)
    (inventory : Inventory) : Prop where
  ns_eq : inventory.ns = ns
  cluster_eq : inventory.cluster = cluster
  service_eq : inventory.publicService = store.service? ns (Names.publicService cluster)
  controller : readController store source ns cluster
    = .ok (inventory.controller, inventory.pods.length)
  pods_ne_nil : inventory.pods ≠ []
  /-- The pods are those with the numbers from zero on, and each has a host. -/
  pod : ∀ {i pod}, inventory.pods[i]? = some pod →
    ∃ spec, readPod store ns cluster i = .ok (pod, spec)
  claims : ClaimsFrom store ns inventory.claims

theorem isRead {source : Source} {inventory : Inventory}
    (h : read store source ns cluster = .ok inventory) :
    IsRead store source ns cluster inventory := by
  obtain ⟨⟨controller, count⟩, hcontroller, h⟩ := Outcome.bind_eq_ok.mp h
  obtain ⟨hcount, h⟩ := Outcome.check_eq_ok.mp h
  obtain ⟨⟨pods, claims⟩, hpods, h⟩ := Outcome.bind_eq_ok.mp h
  obtain rfl := Outcome.pure_eq_ok.mp h
  obtain ⟨rfl, hclaims, hread⟩ := readPods_eq_ok claimsFrom_empty hpods
  exact {
    ns_eq := rfl
    cluster_eq := rfl
    service_eq := rfl
    controller := hcontroller
    pods_ne_nil := fun hnil => hcount (by simpa using hnil)
    pod := fun hi => by simpa using hread hi
    claims := hclaims }

/-- The controller of a cluster under a StatefulSet is the one with the name of the cluster. -/
theorem IsRead.statefulSet {inventory : Inventory}
    (h : IsRead store .statefulSet ns cluster inventory) :
    ∃ s, inventory.controller = .statefulSet s ∧ store.statefulSet? ns cluster = some s := by
  obtain ⟨s, hs, hcontroller⟩ := Outcome.bind_eq_ok.mp h.controller
  obtain ⟨count, -, hcontroller⟩ := Outcome.bind_eq_ok.mp hcontroller
  have heq := congrArg Prod.fst (Outcome.pure_eq_ok.mp hcontroller)
  exact ⟨s, heq.symm, Outcome.required_eq_ok.mp hs⟩

/-- The pod with a number carries the name of the node with that number. -/
theorem IsRead.nameText {source : Source} {inventory : Inventory}
    (h : IsRead store source ns cluster inventory) {i : Nat} {pod : Pod}
    (hi : inventory.pods[i]? = some pod) :
    pod.metadata.nameText = Names.nodeName cluster i := by
  obtain ⟨spec, hpod⟩ := h.pod hi
  exact ObjectStore.nameText_of_pod? (readPod_eq_ok.mp hpod).1

end Inventory

/-! ## What is read -/

/-- What of a store tells how clusters run. Secrets, ConfigMaps and recorded permissions do not. -/
def ObjectStore.running (store : ObjectStore) : ObjectStore :=
  { store with secrets := .empty, configMaps := .empty, rbac := [] }

section Running

variable {store store' : ObjectStore} {ns cluster : String}

theorem Inventory.readPods_running (count ordinal : Nat) (claims : KeyMap String Claim) :
    readPods store.running ns cluster count ordinal claims
      = readPods store ns cluster count ordinal claims := by
  induction count generalizing ordinal claims with
  | zero => rfl
  | succ count ih =>
    simp only [readPods, ih]
    rfl

/-- Reading a cluster looks at nothing else. -/
theorem Inventory.read_of_running (h : store'.running = store.running) (source : Source) :
    read store' source ns cluster = read store source ns cluster := by
  have hread (s : ObjectStore) : read s.running source ns cluster = read s source ns cluster := by
    simp only [read, readPods_running]
    rfl
  rw [← hread store', h, hread]

end Running

/-! ## A small cluster

Statements about clusters that can be read are tried on this one: two nodes under a StatefulSet,
each with a volume for its store and one for failover. How its pods are started and how its
claims are named is left open. -/

namespace SmallCluster

/-- The names of the pods. That of the cluster itself ends in a dash and a numeral. -/
def podNames : List String := ["c-1-0", "c-1-1"]

/-- The names of the volumes. -/
def volumes : List String := ["failoverdir", "d"]

/-- A claim bound to a volume. -/
def claim (name : String) : Claim where
  metadata := { name := some name, ns := some "n" }
  spec := some {
    accessModes := some ["ReadWriteOnce"]
    resources := some { requests := some (.of [("storage", "9Gi")]) }
    volumeName := some "v" }

/-- A pod that is started with `args` and whose claims are named by `claimName`. -/
def pod (args : List String) (claimName : String → String → String) (name : String) : Pod where
  metadata := { name := some name, ns := some "n" }
  spec := some {
    nodeName := some "h"
    containers := [{
      name := "db"
      args := some args
      volumeMounts := some [
        { name := "d", mountPath := "/d" }, { name := "failoverdir", mountPath := "/w" }] }]
    volumes := some (volumes.map fun volume =>
      { name := volume, persistentVolumeClaim := some { claimName := claimName volume name } }) }

/-- The controller. -/
def statefulSet : StatefulSet where
  metadata := { name := some "c-1", ns := some "n" }
  spec := some {
    replicas := some 2
    template := { spec := some { containers := [{ name := "db", image := some "i" }] } }
    volumeClaimTemplates := some (volumes.map claim) }

/-- The objects of the cluster. -/
def store (args : List String) (claimName : String → String → String) : ObjectStore where
  statefulSets := .ofList [statefulSet]
  pods := .ofList (podNames.map (pod args claimName))
  claims := .ofList (podNames.flatMap fun name => volumes.map fun volume =>
    claim (claimName volume name))

end SmallCluster

end Handover
