import Handover.Observation.Observe
import Handover.Proofs.Outcome

/-!
# What an observation says about an inventory

Observing succeeds exactly when each of its steps does. The steps are stated as relations, one
for each level: a descriptor is *behind* a template when the three steps of the correlation and
the two look-ups after them agree (`Storage.Behind`), which is said of the volumes, the mounts and
the requests themselves; a node is observed when its flags and its storage are
(`observeNode_eq_ok`), and a cluster is observed when its nodes are (`observe_eq_ok`). Each
statement goes both ways: what was observed can be taken apart, and what is known about the parts
can be put together to another observation.
-/

namespace Handover

open Kubernetes

/-! ## Found by name -/

section

variable {α : Type} {nameOf : α → String} {name : String} {as : List α} {a : α}

/-- The first of some things that has a name. -/
def IsFirst (nameOf : α → String) (name : String) (as : List α) (a : α) : Prop :=
  ∃ before after, as = before ++ a :: after ∧ nameOf a = name ∧ ∀ b ∈ before, nameOf b ≠ name

theorem find?_eq_some_iff_isFirst :
    as.find? (nameOf · = name) = some a ↔ IsFirst nameOf name as a := by
  rw [List.find?_eq_some_iff_append, IsFirst]
  constructor
  · rintro ⟨hname, before, after, hlist, hbefore⟩
    exact ⟨before, after, hlist, by simpa using hname, by simpa using hbefore⟩
  · rintro ⟨before, after, hlist, hname, hbefore⟩
    exact ⟨by simpa using hname, before, after, hlist, by simpa using hbefore⟩

/-- Where a list may be left out, one is found in it only when it is there. -/
theorem find?_getD_eq_some_iff {as? : Option (List α)} :
    (as?.getD []).find? (nameOf · = name) = some a ↔
      ∃ as, as? = some as ∧ IsFirst nameOf name as a := by
  cases as? with
  | none => simp
  | some as => simp [find?_eq_some_iff_isFirst]

/-- Once it is known when a look-up gives something, it is known when it gives nothing. -/
theorem eq_none_iff_of_eq_some_iff {found : Option α} {p : α → Prop}
    (h : ∀ {a}, found = some a ↔ p a) : found = none ↔ ∀ a, ¬p a := by
  simp only [Option.eq_none_iff_forall_ne_some, ← h, ne_eq]

theorem unique_of_eq_some_iff {found : Option α} {p : α → Prop}
    (h : ∀ {a}, found = some a ↔ p a) {b : α} (ha : p a) (hb : p b) : a = b :=
  Option.some.inj ((h.mpr ha).symm.trans (h.mpr hb))

end

namespace Kubernetes

/-- The first volume of a name on a pod refers to a claim. -/
def PodSpec.Refers (spec : PodSpec) (volume claimName : String) : Prop :=
  ∃ volumes v source, spec.volumes = some volumes ∧ IsFirst Volume.name volume volumes v
    ∧ v.persistentVolumeClaim = some source ∧ source.claimName = claimName

theorem PodSpec.claimName?_eq_some_iff {spec : PodSpec} {volume claimName : String} :
    spec.claimName? volume = some claimName ↔ spec.Refers volume claimName := by
  simp only [claimName?, volume?, Option.map_eq_some_iff, Option.bind_eq_some_iff,
    find?_getD_eq_some_iff]
  constructor
  · rintro ⟨source, ⟨v, ⟨volumes, hvolumes, hv⟩, hsource⟩, hname⟩
    exact ⟨volumes, v, source, hvolumes, hv, hsource, hname⟩
  · rintro ⟨volumes, v, source, hvolumes, hv, hsource, hname⟩
    exact ⟨source, ⟨v, ⟨volumes, hvolumes, hv⟩, hsource⟩, hname⟩

theorem PodSpec.Refers.unique {spec : PodSpec} {volume a b : String}
    (ha : spec.Refers volume a) (hb : spec.Refers volume b) : a = b :=
  unique_of_eq_some_iff claimName?_eq_some_iff ha hb

theorem PodSpec.claimName?_eq_none_iff {spec : PodSpec} {volume : String} :
    spec.claimName? volume = none ↔ ∀ claimName, ¬spec.Refers volume claimName :=
  eq_none_iff_of_eq_some_iff claimName?_eq_some_iff

/-- The first mount of a volume in a container is at a path. -/
def Container.Mounts (container : Container) (volume path : String) : Prop :=
  ∃ mounts m, container.volumeMounts = some mounts ∧ IsFirst VolumeMount.name volume mounts m
    ∧ m.mountPath = path

theorem Container.mountPath?_eq_some_iff {container : Container} {volume path : String} :
    container.mountPath? volume = some path ↔ container.Mounts volume path := by
  simp only [mountPath?, Option.map_eq_some_iff, find?_getD_eq_some_iff]
  constructor
  · rintro ⟨m, ⟨mounts, hmounts, hm⟩, hpath⟩
    exact ⟨mounts, m, hmounts, hm, hpath⟩
  · rintro ⟨mounts, m, hmounts, hm, hpath⟩
    exact ⟨m, ⟨mounts, hmounts, hm⟩, hpath⟩

theorem Container.Mounts.unique {container : Container} {volume a b : String}
    (ha : container.Mounts volume a) (hb : container.Mounts volume b) : a = b :=
  unique_of_eq_some_iff mountPath?_eq_some_iff ha hb

theorem Container.mountPath?_eq_none_iff {container : Container} {volume : String} :
    container.mountPath? volume = none ↔ ∀ path, ¬container.Mounts volume path :=
  eq_none_iff_of_eq_some_iff mountPath?_eq_some_iff

/-- A claim asks for an amount of storage. -/
def Claim.Requests (claim : Claim) (size : String) : Prop :=
  ∃ spec resources requests, claim.spec = some spec ∧ spec.resources = some resources
    ∧ resources.requests = some requests ∧ requests.get? "storage" = some size

theorem Claim.storage?_eq_some_iff {claim : Claim} {size : String} :
    claim.spec.bind (·.storage?) = some size ↔ claim.Requests size := by
  simp only [ClaimSpec.storage?, Option.bind_eq_some_iff]
  constructor
  · rintro ⟨spec, hspec, requests, ⟨resources, hresources, hrequests⟩, hsize⟩
    exact ⟨spec, resources, requests, hspec, hresources, hrequests, hsize⟩
  · rintro ⟨spec, resources, requests, hspec, hresources, hrequests, hsize⟩
    exact ⟨spec, hspec, requests, ⟨resources, hresources, hrequests⟩, hsize⟩

theorem Claim.Requests.unique {claim : Claim} {a b : String} (ha : claim.Requests a)
    (hb : claim.Requests b) : a = b :=
  unique_of_eq_some_iff storage?_eq_some_iff ha hb

theorem Claim.storage?_eq_none_iff {claim : Claim} :
    claim.spec.bind (·.storage?) = none ↔ ∀ size, ¬claim.Requests size :=
  eq_none_iff_of_eq_some_iff storage?_eq_some_iff

/-- A claim says on which host its volume was made. -/
def Claim.MadeOn (claim : Claim) (host : String) : Prop :=
  ∃ annotations, claim.metadata.annotations = some annotations
    ∧ annotations.get? Names.selectedNode = some host

theorem Claim.selectedNode_eq_some_iff {claim : Claim} {host : String} :
    claim.metadata.annotation? Names.selectedNode = some host ↔ claim.MadeOn host :=
  Option.bind_eq_some_iff

end Kubernetes

/-! ## Storage -/

namespace Storage

/-- A claim belongs to a node: it is named after the node's pod, and its volume was made on the
node's host, if on any that is known. -/
structure Belongs (place : Place) (name : String) (claim : Claim) : Prop where
  owner : Text.endsWith name s!"-{place.pod}" = true
  host : ∀ host, claim.MadeOn host → host = place.host

theorem checkOwner_eq_ok {place : Place} {name : String} {claim : Claim} :
    checkOwner place name claim = .ok () ↔ Belongs place name claim := by
  have hparts : checkOwner place name claim = .ok () ↔
      Text.endsWith name s!"-{place.pod}" = true
        ∧ ∀ host, claim.metadata.annotation? Names.selectedNode = some host →
          host = place.host := by
    unfold checkOwner
    split
    · rename_i howner
      split
      · rename_i selected hselected
        by_cases hhost : selected = place.host <;> simp [howner, hselected, hhost]
      · rename_i hselected
        simp [howner, hselected]
    · rename_i howner
      simp [howner]
  simp only [hparts, Claim.selectedNode_eq_some_iff]
  exact ⟨fun ⟨howner, hhost⟩ => ⟨howner, hhost⟩, fun h => ⟨h.owner, h.host⟩⟩

/-- A descriptor and the claim behind a template on a node. -/
structure Behind (place : Place) (spec : PodSpec) (container : Container)
    (claims : KeyMap String Claim) (template : ClaimTemplate) (claim : Claim)
    (d : StorageDescriptor) : Prop where
  name : d.name = template.name
  mounted : spec.Refers template.name d.claimName
  found : claims.get? d.claimName = some claim
  owned : Belongs place d.claimName claim
  size : claim.Requests d.size
  mountPath : container.Mounts template.name d.mountPath
  storageClass : d.storageClass
    = (claim.spec.bind (·.storageClassName)).or template.storageClass
  volumeName : d.volumeName = claim.spec.bind (·.volumeName)
  accessModes : d.accessModes = (claim.spec.bind (·.accessModes)).getD []

theorem resolveTemplate_eq_ok {place : Place} {spec : PodSpec} {container : Container}
    {claims : KeyMap String Claim} {template : ClaimTemplate} {d : StorageDescriptor} :
    resolveTemplate place spec container claims template = .ok d ↔
      ∃ claim, Behind place spec container claims template claim d := by
  constructor
  · intro h
    obtain ⟨name, hname, h⟩ := Outcome.bind_eq_ok.mp h
    obtain ⟨claim, hclaim, h⟩ := Outcome.bind_eq_ok.mp h
    obtain ⟨⟨⟩, howner, h⟩ := Outcome.bind_eq_ok.mp h
    obtain ⟨size, hsize, h⟩ := Outcome.bind_eq_ok.mp h
    obtain ⟨path, hpath, h⟩ := Outcome.bind_eq_ok.mp h
    obtain rfl := Outcome.pure_eq_ok.mp h
    exact ⟨claim, {
      name := rfl
      mounted := PodSpec.claimName?_eq_some_iff.mp (Outcome.required_eq_ok.mp hname)
      found := Outcome.required_eq_ok.mp hclaim
      owned := checkOwner_eq_ok.mp howner
      size := Claim.storage?_eq_some_iff.mp (Outcome.required_eq_ok.mp hsize)
      mountPath := Container.mountPath?_eq_some_iff.mp (Outcome.required_eq_ok.mp hpath)
      storageClass := rfl
      volumeName := rfl
      accessModes := rfl }⟩
  · rintro ⟨claim, h⟩
    have hname := PodSpec.claimName?_eq_some_iff.mpr h.mounted
    have hsize := Claim.storage?_eq_some_iff.mpr h.size
    have hpath := Container.mountPath?_eq_some_iff.mpr h.mountPath
    unfold resolveTemplate
    rw [Outcome.bind_eq_ok]
    refine ⟨_, Outcome.required_eq_ok.mpr hname, Outcome.bind_eq_ok.mpr ?_⟩
    refine ⟨_, Outcome.required_eq_ok.mpr h.found, Outcome.bind_eq_ok.mpr ?_⟩
    refine ⟨_, checkOwner_eq_ok.mpr h.owned, Outcome.bind_eq_ok.mpr ?_⟩
    refine ⟨_, Outcome.required_eq_ok.mpr hsize, Outcome.bind_eq_ok.mpr ?_⟩
    refine ⟨_, Outcome.required_eq_ok.mpr hpath, ?_⟩
    rw [Outcome.pure_eq_ok, ← h.name, ← h.storageClass, ← h.volumeName, ← h.accessModes]

/-- The storage of a node is what stands behind its templates, one by one. -/
theorem resolve_eq_ok {index : Nat} {pod : Pod} {container : Container}
    {templates : List ClaimTemplate} {claims : KeyMap String Claim}
    {ds : List StorageDescriptor} :
    resolve index pod container templates claims = .ok ds ↔
      ∃ spec host, pod.spec = some spec ∧ spec.nodeName = some host
        ∧ List.Forall₂ (fun template d => ∃ claim,
            Behind ⟨index, pod.metadata.nameText, host⟩ spec container claims template claim d)
          templates ds := by
  simp only [resolve, Outcome.bind_eq_ok, Outcome.required_eq_ok, Outcome.mapM_eq_ok,
    resolveTemplate_eq_ok]
  constructor
  · rintro ⟨spec, hspec, host, hhost, h⟩
    exact ⟨spec, host, hspec, hhost, h⟩
  · rintro ⟨spec, host, hspec, hhost, h⟩
    exact ⟨spec, hspec, host, hhost, h⟩

end Storage

/-! ## Nodes -/

theorem observeNode_eq_ok {name : String} {claims : KeyMap String Claim} {index : Nat}
    {pod : Pod} {templates : List ClaimTemplate} {n : NodeObservation} :
    observeNode name claims index pod templates = .ok n ↔
      ∃ container, databaseContainer pod name = .ok container
        ∧ StartCommand.parse container.startCommand = .ok n.flags
        ∧ WalFailover.classify n.flags.walFailover n.flags.storeCount = .ok n.walFailover
        ∧ Storage.resolve index pod container templates claims = .ok n.storage
        ∧ Storage.failover index pod.metadata.nameText n.walFailover n.storage = .ok n.failover
        ∧ n.index = index ∧ n.podName = pod.metadata.nameText
        ∧ n.host = (pod.spec.bind (·.nodeName)).getD "" := by
  simp only [observeNode, Outcome.bind_eq_ok, Outcome.pure_eq_ok]
  constructor
  · rintro ⟨container, hcontainer, flags, hflags, mode, hmode, storage, hstorage, failover,
      hfailover, rfl⟩
    exact ⟨container, hcontainer, hflags, hmode, hstorage, hfailover, rfl, rfl, rfl⟩
  · rintro ⟨container, hcontainer, hflags, hmode, hstorage, hfailover, rfl, hpod, hhost⟩
    exact ⟨container, hcontainer, _, hflags, _, hmode, _, hstorage, _, hfailover, by
      rw [← hpod, ← hhost]⟩

/-! ## Clusters -/

/-- The first CrdbNode stands for the cluster, and each declares its own volumes. -/
theorem declared_crdbNodes {inventory : Inventory} {first : CrdbNode} {others : List CrdbNode}
    (hcontroller : inventory.controller = .crdbNodes (first :: others)) (pod : Pod) :
    ∃ d, declared inventory pod = .ok d ∧ d.source = .crdbNode
      ∧ d.policy = .ofCrdbNode first.spec
      ∧ d.logging = first.spec.loggingConfigMapName.map .configMap
      ∧ ∀ {i c}, (first :: others)[i]? = some c → d.templates i = c.spec.templates := by
  rw [declared, hcontroller]
  refine ⟨_, rfl, rfl, rfl, rfl, fun {i c} hc => ?_⟩
  simp [hc]

/-- The observation that the nodes of a cluster and what its controller declares make up. -/
def Declared.observation (d : Declared) (inventory : Inventory) (first : NodeObservation)
    (others : List NodeObservation) : ClusterObservation where
  cluster := inventory.cluster
  ns := inventory.ns
  source := d.source
  secure := !first.flags.insecure
  logging := d.logging
  certificates := d.certificates
  policy := d.policy
  publicService := inventory.publicService
  first := first
  others := others

/-- A node of an inventory with what is observed of it. -/
def IsObserved (d : Declared) (inventory : Inventory) (numbered : Pod × Nat)
    (n : NodeObservation) : Prop :=
  observeNode (containerOf d.source) inventory.claims numbered.2 numbered.1
    (d.templates numbered.2) = .ok n

theorem observe_eq_ok {inventory : Inventory} {o : ClusterObservation} :
    observe inventory = .ok o ↔
      ∃ pod pods d first others, inventory.pods = pod :: pods
        ∧ declared inventory pod = .ok d
        ∧ List.Forall₂ (IsObserved d inventory) (inventory.pods.zipIdx) (first :: others)
        ∧ o = d.observation inventory first others := by
  unfold observe
  split
  · rename_i hpods
    constructor
    · intro h
      cases h
    · rintro ⟨pod, pods, d, first, others, hcons, -⟩
      rw [hpods] at hcons
      cases hcons
  · rename_i pod pods hpods
    rw [hpods]
    simp only [List.zipIdx_cons, List.forall₂_cons, Outcome.bind_eq_ok, Outcome.mapM_eq_ok,
      Outcome.pure_eq_ok]
    constructor
    · rintro ⟨d, hd, first, hfirst, others, hothers, rfl⟩
      exact ⟨pod, pods, d, first, others, rfl, hd, ⟨hfirst, hothers⟩, rfl⟩
    · rintro ⟨pod', pods', d, first, others, hcons, hd, ⟨hfirst, hothers⟩, rfl⟩
      obtain ⟨rfl, rfl⟩ := List.cons.inj hcons
      exact ⟨d, hd, first, hfirst, others, hothers, rfl⟩

/-- The node with a number is observed on the pod with that number. -/
theorem exists_isObserved {d : Declared} {inventory : Inventory} {nodes : List NodeObservation}
    (h : List.Forall₂ (IsObserved d inventory) (inventory.pods.zipIdx) nodes) {i : Nat}
    {n : NodeObservation} (hn : nodes[i]? = some n) :
    ∃ pod, inventory.pods[i]? = some pod ∧ IsObserved d inventory (pod, i) n := by
  obtain ⟨⟨p, k⟩, hp, hobserved⟩ := getElem?_of_forall₂ h hn
  rw [List.getElem?_zipIdx, Option.map_eq_some_iff] at hp
  obtain ⟨p', hp', heq⟩ := hp
  obtain ⟨rfl, rfl⟩ := Prod.mk.inj heq
  exact ⟨p', hp', by simpa using hobserved⟩

theorem nodes_of_observe {inventory : Inventory} {o : ClusterObservation}
    (h : observe inventory = .ok o) :
    ∃ d, (∃ pod, inventory.pods.head? = some pod ∧ declared inventory pod = .ok d)
      ∧ o.source = d.source
      ∧ ∀ {i n}, o.nodes[i]? = some n →
        ∃ pod, inventory.pods[i]? = some pod ∧ IsObserved d inventory (pod, i) n := by
  obtain ⟨pod, pods, d, first, others, hpods, hd, hall, rfl⟩ := observe_eq_ok.mp h
  exact ⟨d, ⟨pod, by rw [hpods, List.head?_cons], hd⟩, rfl, exists_isObserved hall⟩

/-- What decides the failover of an observed node. -/
theorem failover_of_observe {inventory : Inventory} {o : ClusterObservation} {n : NodeObservation}
    (hobserve : observe inventory = .ok o) (hn : n ∈ o.nodes) :
    (∃ parts, StartCommand.parse parts = .ok n.flags)
      ∧ WalFailover.classify n.flags.walFailover n.flags.storeCount = .ok n.walFailover
      ∧ ∃ index pod, Storage.failover index pod n.walFailover n.storage = .ok n.failover := by
  obtain ⟨d, -, -, hnodes⟩ := nodes_of_observe hobserve
  obtain ⟨i, hi⟩ := List.mem_iff_getElem?.mp hn
  obtain ⟨pod, -, hnode⟩ := hnodes hi
  obtain ⟨container, -, hflags, hmode, -, hfailover, -⟩ := observeNode_eq_ok.mp hnode
  exact ⟨⟨_, hflags⟩, hmode, _, _, hfailover⟩

end Handover
