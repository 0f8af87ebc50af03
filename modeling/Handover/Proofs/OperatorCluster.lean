import Handover.Proofs.StorageIdentity

/-!
# Clusters under the operator

The CrdbNodes of a cluster are listed by their label and put in order by the numbers in their
names. Once they have been read, the one at a place is the one with the number of that place
(`Inventory.IsRead.crdbNodes`). What is observed of a node is therefore what its own CrdbNode
declares and its own pod mounts, and only the policy is that of the first CrdbNode for all of them
(`declaredBy_of_observe`).
-/

namespace Handover

open Kubernetes

namespace Inventory

variable {store : ObjectStore} {ns cluster : String}

/-! ## Order -/

/-- Numbers that are accepted go up by one from the first that is expected. -/
theorem checkContiguous_eq_ok {start : Nat} {nodes : List (Nat × CrdbNode)} :
    checkContiguous cluster start nodes = .ok () ↔
      ∀ {i : Nat} {e : Nat × CrdbNode}, nodes[i]? = some e → e.1 = start + i := by
  induction nodes generalizing start with
  | nil => exact ⟨fun _ => nofun, fun _ => rfl⟩
  | cons e nodes ih =>
    obtain ⟨ordinal, node⟩ := e
    rw [checkContiguous]
    constructor
    · intro h i e he
      split at h
      · rename_i hfirst
        cases i with
        | zero =>
          obtain rfl := Option.some.inj he
          exact hfirst
        | succ i => rw [ih.mp h he, Nat.add_assoc, Nat.add_comm 1]
      · cases h
    · intro h
      have hfirst : ordinal = start := h (i := 0) rfl
      rw [if_pos hfirst, ih]
      intro i e he
      rw [h (i := i + 1) he, Nat.add_assoc, Nat.add_comm 1]

theorem numbered_eq_ok {node : CrdbNode} {e : Nat × CrdbNode} :
    numbered cluster node = .ok e ↔ Names.ordinalOf? cluster node.name = some e.1 ∧ e.2 = node := by
  simp only [numbered, Outcome.bind_eq_ok, Outcome.required_eq_ok, Outcome.pure_eq_ok]
  constructor
  · rintro ⟨ordinal, hordinal, rfl⟩
    exact ⟨hordinal, rfl⟩
  · rintro ⟨hordinal, rfl⟩
    exact ⟨e.1, hordinal, rfl⟩

/-- CrdbNodes that are in order are those that were listed, each at the place of its number. -/
theorem orderNodes_eq_ok {listed nodes : List CrdbNode}
    (h : orderNodes ns cluster listed = .ok nodes) :
    ∀ {i : Nat} {c : CrdbNode}, nodes[i]? = some c →
      c ∈ listed ∧ Names.ordinalOf? cluster c.name = some i := by
  obtain ⟨numbers, hnumbers, h⟩ := Outcome.bind_eq_ok.mp h
  split at h
  · cases h
  obtain ⟨⟨⟩, hcontiguous, h⟩ := Outcome.bind_eq_ok.mp h
  obtain rfl := Outcome.pure_eq_ok.mp h
  intro i c hc
  obtain ⟨e, he, rfl⟩ := Option.map_eq_some_iff.mp (List.getElem?_map ▸ hc)
  have hplace := checkContiguous_eq_ok.mp hcontiguous he
  have hmem := (List.mergeSort_perm _ _).mem_iff.mp (List.mem_of_getElem? he)
  obtain ⟨k, hk⟩ := List.mem_iff_getElem?.mp hmem
  obtain ⟨node, hnode, hnumbered⟩ := getElem?_of_forall₂ (Outcome.mapM_eq_ok.mp hnumbers) hk
  obtain ⟨hordinal, rfl⟩ := numbered_eq_ok.mp hnumbered
  rw [hplace, Nat.zero_add] at hordinal
  exact ⟨List.mem_of_getElem? hnode, hordinal⟩

/-- CrdbNodes that are listed in the order of their numbers stay in it. -/
theorem orderNodes_of_contiguous {listed : List CrdbNode} {numbers : List (Nat × CrdbNode)}
    (hnumbers : listed.mapM (numbered cluster) = .ok numbers) (hne : numbers ≠ [])
    (hcontiguous : checkContiguous cluster 0 numbers = .ok ()) :
    orderNodes ns cluster listed = .ok (numbers.map (·.2)) := by
  have hordered : numbers.Pairwise fun a b => a.1 ≤ b.1 := by
    refine List.pairwise_iff_getElem.mpr fun i j hi hj hij => ?_
    rw [checkContiguous_eq_ok.mp hcontiguous (List.getElem?_eq_getElem hi),
      checkContiguous_eq_ok.mp hcontiguous (List.getElem?_eq_getElem hj)]
    omega
  have hsorted : numbers.mergeSort (fun a b => a.1 ≤ b.1) = numbers :=
    List.mergeSort_of_pairwise (hordered.imp decide_eq_true)
  have hempty : numbers.isEmpty = false := by simpa using hne
  refine Outcome.bind_eq_ok.mpr ⟨numbers, hnumbers, ?_⟩
  rw [hempty, hsorted]
  exact Outcome.bind_eq_ok.mpr ⟨(), hcontiguous, rfl⟩

/-- The controllers of a cluster under the operator: one CrdbNode for each pod, at the place of
its number. -/
theorem IsRead.crdbNodes {inventory : Inventory} (h : IsRead store .crdbNode ns cluster inventory) :
    ∃ nodes, inventory.controller = .crdbNodes nodes ∧ nodes.length = inventory.pods.length
      ∧ ∀ {i : Nat} {c : CrdbNode}, nodes[i]? = some c →
        c ∈ store.crdbNodesOf ns cluster ∧ Names.ordinalOf? cluster c.name = some i := by
  obtain ⟨nodes, hnodes, hcontroller⟩ := Outcome.bind_eq_ok.mp h.controller
  obtain ⟨hcontroller, hcount⟩ := Prod.mk.inj (Outcome.pure_eq_ok.mp hcontroller)
  exact ⟨nodes, hcontroller.symm, hcount, orderNodes_eq_ok hnodes⟩

end Inventory

/-! ## Declared and mounted -/

/-- The claim that a pod mounts under a declared volume, and what the store says of it. -/
structure ObjectStore.Backs (store : ObjectStore) (ns pod : String) (template : ClaimTemplate)
    (d : StorageDescriptor) : Prop where
  name : d.name = template.name
  mounted : store.Mounts ns pod template.name d.claimName
  claim : ∃ claim spec, store.claim? ns d.claimName = some claim ∧ claim.spec = some spec
    ∧ claim.Requests d.size ∧ d.volumeName = spec.volumeName
    ∧ d.accessModes = spec.accessModes.getD []
    ∧ d.storageClass = spec.storageClassName.or template.storageClass

theorem Storage.Behind.backs {place : Storage.Place} {spec : PodSpec} {container : Container}
    {claims : KeyMap String Claim} {template : ClaimTemplate} {claim : Claim}
    {d : StorageDescriptor} {store : ObjectStore} {ns name : String} {pod : Pod}
    (h : Storage.Behind place spec container claims template claim d)
    (hpod : store.pod? ns name = some pod) (hspec : pod.spec = some spec)
    (hclaims : Inventory.ClaimsFrom store ns claims) : store.Backs ns name template d where
  name := h.name
  mounted := h.name ▸ h.mounts hpod hspec
  claim := by
    obtain ⟨cs, _, _, hcs, -⟩ := h.size
    have hclass := h.storageClass
    have hvolume := h.volumeName
    have hmodes := h.accessModes
    rw [hcs, Option.bind_some] at hclass hvolume hmodes
    exact ⟨claim, cs, hclaims h.found, hcs, h.size, hvolume, hmodes, hclass⟩

/-- What is observed of a cluster under the operator, and the CrdbNodes that declare it. -/
structure ClusterObservation.DeclaredBy (o : ClusterObservation) (store : ObjectStore)
    (ns cluster : String) (nodes : List CrdbNode) : Prop where
  ns_eq : o.ns = ns
  source_eq : o.source = .crdbNode
  length_eq : nodes.length = o.nodes.length
  listed : ∀ {i : Nat} {c : CrdbNode}, nodes[i]? = some c →
    c ∈ store.crdbNodesOf ns cluster ∧ Names.ordinalOf? cluster c.name = some i
  /-- The first CrdbNode stands for the cluster. -/
  first : ∃ first, nodes[0]? = some first ∧ o.policy = .ofCrdbNode first.spec
    ∧ o.logging = first.spec.loggingConfigMapName.map .configMap
  named : ∀ {i : Nat} {n : NodeObservation}, o.nodes[i]? = some n →
    n.index = i ∧ n.podName = Names.nodeName cluster i
  /-- The volumes of a node are those that its own CrdbNode declares, in their order. -/
  storage : ∀ {i : Nat} {c : CrdbNode} {n : NodeObservation}, nodes[i]? = some c →
    o.nodes[i]? = some n →
    List.Forall₂ (store.Backs ns (Names.nodeName cluster i)) c.spec.templates n.storage

section Observed

variable {store : ObjectStore} {ns cluster : String} {inventory : Inventory}
  {o : ClusterObservation}

/-- For each CrdbNode there is a node. -/
theorem ClusterObservation.DeclaredBy.exists_node {nodes : List CrdbNode}
    (h : o.DeclaredBy store ns cluster nodes) {i : Nat} {c : CrdbNode} (hc : nodes[i]? = some c) :
    ∃ n, o.nodes[i]? = some n := by
  obtain ⟨hlt, -⟩ := List.getElem?_eq_some_iff.mp hc
  rw [h.length_eq] at hlt
  exact ⟨_, List.getElem?_eq_getElem hlt⟩

/-- The volumes of a node are those that are declared for it, in their order. -/
theorem backs_of_isObserved {source : Source} {d : Declared} {i : Nat} {pod : Pod}
    {n : NodeObservation} (hinv : inventory.IsRead store source ns cluster)
    (hpod : inventory.pods[i]? = some pod) (hnode : IsObserved d inventory (pod, i) n) :
    List.Forall₂ (store.Backs ns (Names.nodeName cluster i)) (d.templates i) n.storage := by
  obtain ⟨container, -, -, -, hresolve, -⟩ := observeNode_eq_ok.mp hnode
  obtain ⟨spec, host, hspec, -, hbehind⟩ := Storage.resolve_eq_ok.mp hresolve
  obtain ⟨spec', hreadPod⟩ := hinv.pod hpod
  obtain ⟨hstored, -, -⟩ := Inventory.readPod_eq_ok.mp hreadPod
  exact hbehind.imp fun template d' ⟨claim, h⟩ => h.backs hstored hspec hinv.claims

/-- Whatever is observed of a cluster under the operator has been declared by its CrdbNodes. -/
theorem declaredBy_of_observe (hread : Inventory.read store .crdbNode ns cluster = .ok inventory)
    (hobserve : observe inventory = .ok o) :
    ∃ nodes, inventory.controller = .crdbNodes nodes ∧ o.DeclaredBy store ns cluster nodes := by
  have hinv := Inventory.isRead hread
  obtain ⟨nodes, hcontroller, hcount, hlisted⟩ := hinv.crdbNodes
  have hnamed {i : Nat} {n : NodeObservation} (hn : o.nodes[i]? = some n) :
      n.index = i ∧ n.podName = Names.nodeName cluster i := by
    obtain ⟨hindex, hname, -⟩ := storage_of_observe hread hobserve hn
    exact ⟨hindex, hname⟩
  obtain ⟨pod, pods, d, first, others, hpods, hd, hall, rfl⟩ := observe_eq_ok.mp hobserve
  cases nodes with
  | nil => exact absurd (List.eq_nil_of_length_eq_zero hcount.symm) hinv.pods_ne_nil
  | cons c cs =>
    obtain ⟨d', hd', hsource, hpolicy, hlogging, htemplates⟩ := declared_crdbNodes hcontroller pod
    obtain rfl := Except.ok.inj (hd'.symm.trans hd)
    refine ⟨c :: cs, hcontroller, {
      ns_eq := hinv.ns_eq
      source_eq := hsource
      length_eq := hcount.trans (List.length_zipIdx.symm.trans hall.length_eq)
      listed := hlisted
      first := ⟨c, rfl, hpolicy, hlogging⟩
      named := hnamed
      storage := fun {i c' n} hc hn => ?_ }⟩
    obtain ⟨⟨p, k⟩, hnumbered, hnode⟩ := getElem?_of_forall₂ hall hn
    rw [List.getElem?_zipIdx, Option.map_eq_some_iff] at hnumbered
    obtain ⟨p, hp, hnumbered⟩ := hnumbered
    obtain ⟨rfl, rfl⟩ := Prod.mk.inj hnumbered
    rw [Nat.zero_add] at hnode
    exact htemplates hc ▸ backs_of_isObserved hinv hp hnode

end Observed

/-! ## A small cluster under the operator -/

namespace SmallCluster

/-- A CrdbNode of the cluster. -/
def crdbNode (name : String) (spec : CrdbNodeSpec) : CrdbNode where
  metadata := {
    name := some name
    ns := some "n"
    labels := some (.of [(Names.clusterLabel, "c-1")]) }
  spec := spec

/-- The small cluster with a CrdbNode for each of its pods. -/
def operatorStore (claimName : String → String → String) (first second : CrdbNodeSpec) :
    ObjectStore :=
  { store ["start"] claimName with
    crdbNodes := .ofList [crdbNode "c-1-0" first, crdbNode "c-1-1" second] }

/-- The inventory of the cluster, with its CrdbNodes in their order. -/
def operatorInventory (claimName : String → String → String) (first second : CrdbNodeSpec) :
    Outcome Inventory := do
  let (pods, claims) ← Inventory.readPods (store ["start"] claimName) "n" "c-1" 2 0 .empty
  return {
    ns := "n"
    cluster := "c-1"
    controller := .crdbNodes [crdbNode "c-1-0" first, crdbNode "c-1-1" second]
    pods, claims
    publicService := none }

theorem crdbNodesOf_operatorStore (claimName : String → String → String)
    (first second : CrdbNodeSpec) :
    (operatorStore claimName first second).crdbNodesOf "n" "c-1"
      = [crdbNode "c-1-0" first, crdbNode "c-1-1" second] := by
  have hlabel (name : String) (spec : CrdbNodeSpec) :
      (crdbNode name spec).metadata.label? Names.clusterLabel = some "c-1" := rfl
  have hkey (name : String) (spec : CrdbNodeSpec) :
      ObjectKey.of (crdbNode name spec) = ⟨"n", name⟩ := rfl
  have horder : compare (⟨"n", "c-1-1"⟩ : ObjectKey) ⟨"n", "c-1-0"⟩ = .gt := by decide +kernel
  simp [ObjectStore.crdbNodesOf, operatorStore, Objects.ofList, Objects.put, KeyMap.insert,
    KeyMap.insertEntry, Objects.empty, KeyMap.empty, KeyMap.filter, KeyMap.values, hkey, horder,
    hlabel]

theorem read_operatorStore (claimName : String → String → String) (first second : CrdbNodeSpec) :
    Inventory.read (operatorStore claimName first second) .crdbNode "n" "c-1"
      = operatorInventory claimName first second := by
  have hfirst : Names.ordinalOf? "c-1" "c-1-0" = some 0 := by decide +kernel
  have hsecond : Names.ordinalOf? "c-1" "c-1-1" = some 1 := by decide +kernel
  have hnumbers : [crdbNode "c-1-0" first, crdbNode "c-1-1" second].mapM (Inventory.numbered "c-1")
      = .ok [(0, crdbNode "c-1-0" first), (1, crdbNode "c-1-1" second)] :=
    Outcome.mapM_eq_ok.mpr (.cons (Inventory.numbered_eq_ok.mpr ⟨hfirst, rfl⟩)
      (.cons (Inventory.numbered_eq_ok.mpr ⟨hsecond, rfl⟩) .nil))
  rw [Inventory.read, Inventory.readController, crdbNodesOf_operatorStore,
    Inventory.orderNodes_of_contiguous hnumbers (by simp) rfl]
  rfl

/-- What is made of the observation of the cluster is made of what its store holds. -/
theorem exists_observed {α : Type} (claimName : String → String → String)
    (first second : CrdbNodeSpec) (make : ClusterObservation → Outcome α)
    (h : (operatorInventory claimName first second >>= fun inventory =>
      observe inventory >>= make).isOk = true) :
    ∃ inventory o a,
      Inventory.read (operatorStore claimName first second) .crdbNode "n" "c-1" = .ok inventory
        ∧ inventory.controller = .crdbNodes [crdbNode "c-1-0" first, crdbNode "c-1-1" second]
        ∧ observe inventory = .ok o ∧ make o = .ok a := by
  rw [← read_operatorStore] at h
  rcases hmade : Inventory.read (operatorStore claimName first second) .crdbNode "n" "c-1"
    >>= fun inventory => observe inventory >>= make with failure | a
  · rw [hmade] at h
    cases h
  · obtain ⟨inventory, hread, hmade⟩ := Outcome.bind_eq_ok.mp hmade
    obtain ⟨o, hobserve, ha⟩ := Outcome.bind_eq_ok.mp hmade
    refine ⟨inventory, o, a, hread, ?_, hobserve, ha⟩
    rw [read_operatorStore] at hread
    obtain ⟨read, -, hread⟩ := Outcome.bind_eq_ok.mp hread
    obtain rfl := Outcome.pure_eq_ok.mp hread
    rfl

/-- The name of a claim that a pod of the cluster `o-c-1` mounts, whose pods are named like those
of the small cluster behind a dash. -/
def foreignName (volume pod : String) : String := s!"{volume}-o-{pod}"

/-- A node with one store, on the volume `d`. -/
def storeOnly : CrdbNodeSpec where
  dataStores := [{ name := "d" }]

/-- A node with the same store and a volume for failover that is not in use. -/
def storeAndFailover : CrdbNodeSpec :=
  { storeOnly with walFailoverSpec := some { status := "disable", name := "failoverdir" } }

end SmallCluster

/-! ## One node under the operator -/

/-! A cluster of one node. How its container is started, what its pod mounts and what its CrdbNode
declares is left open. -/

namespace LoneNode

def crdbNode (spec : CrdbNodeSpec) : CrdbNode where
  metadata := {
    name := some "c-0"
    ns := some "n"
    labels := some (.of [(Names.clusterLabel, "c")]) }
  spec := spec

/-- The pod, with a claim of its own behind each volume. -/
def pod (args volumes : List String) : Pod where
  metadata := { name := some "c-0", ns := some "n" }
  spec := some {
    nodeName := some "h"
    containers := [{
      name := Names.operatorContainer
      args := some args
      volumeMounts := some (volumes.map fun volume =>
        { name := volume, mountPath := s!"/{volume}" }) }]
    volumes := some (volumes.map fun volume => {
      name := volume
      persistentVolumeClaim := some { claimName := Names.claimName volume "c-0" } }) }

def store (args volumes : List String) (spec : CrdbNodeSpec) : ObjectStore where
  pods := .ofList [pod args volumes]
  claims := .ofList (volumes.map fun volume => SmallCluster.claim (Names.claimName volume "c-0"))
  crdbNodes := .ofList [crdbNode spec]

def inventory (args volumes : List String) (spec : CrdbNodeSpec) : Outcome Inventory := do
  let (pods, claims) ← Inventory.readPods (store args volumes spec) "n" "c" 1 0 .empty
  return {
    ns := "n"
    cluster := "c"
    controller := .crdbNodes [crdbNode spec]
    pods, claims
    publicService := none }

theorem crdbNodesOf_store (args volumes : List String) (spec : CrdbNodeSpec) :
    (store args volumes spec).crdbNodesOf "n" "c" = [crdbNode spec] := by
  have hlabel : (crdbNode spec).metadata.label? Names.clusterLabel = some "c" := rfl
  have hkey : ObjectKey.of (crdbNode spec) = ⟨"n", "c-0"⟩ := rfl
  simp [ObjectStore.crdbNodesOf, store, Objects.ofList, Objects.put, KeyMap.insert,
    KeyMap.insertEntry, Objects.empty, KeyMap.empty, KeyMap.filter, KeyMap.values, hkey, hlabel]

theorem read_store (args volumes : List String) (spec : CrdbNodeSpec) :
    Inventory.read (store args volumes spec) .crdbNode "n" "c" = inventory args volumes spec := by
  have hordinal : Names.ordinalOf? "c" "c-0" = some 0 := by decide +kernel
  have hnumbers : [crdbNode spec].mapM (Inventory.numbered "c") = .ok [(0, crdbNode spec)] :=
    Outcome.mapM_eq_ok.mpr (.cons (Inventory.numbered_eq_ok.mpr ⟨hordinal, rfl⟩) .nil)
  rw [Inventory.read, Inventory.readController, crdbNodesOf_store,
    Inventory.orderNodes_of_contiguous hnumbers (by simp) rfl]
  rfl

/-- What is made of the observation of the node is made of what its store holds. -/
theorem exists_observed {α : Type} (args volumes : List String) (spec : CrdbNodeSpec)
    (make : ClusterObservation → Outcome α) (a : α)
    (h : (inventory args volumes spec >>= fun inventory => observe inventory >>= make) = .ok a) :
    ∃ inventory o, Inventory.read (store args volumes spec) .crdbNode "n" "c" = .ok inventory
      ∧ inventory.controller = .crdbNodes [crdbNode spec]
      ∧ observe inventory = .ok o ∧ make o = .ok a := by
  obtain ⟨i, hread, h⟩ := Outcome.bind_eq_ok.mp h
  obtain ⟨o, hobserve, ha⟩ := Outcome.bind_eq_ok.mp h
  obtain ⟨read, -, hcontroller⟩ := Outcome.bind_eq_ok.mp hread
  obtain rfl := Outcome.pure_eq_ok.mp hcontroller
  exact ⟨_, o, (read_store args volumes spec).trans hread, rfl, hobserve, ha⟩

end LoneNode

end Handover
