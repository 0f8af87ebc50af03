import Handover.Proofs.CrdbNodes
import Handover.Proofs.Inventory

/-!
# CrdbNodes read back

An observation can be made from either side of a handover: from the StatefulSet, or from the
CrdbNodes that were built for its pods, with the pods and claims still the same. Both give the
same observation, except that the volume for failover is now declared behind the others.

The flags, the modes and the claims are read off the pods, which are the same, so what has to
survive is what a CrdbNode says itself. Its templates lead to the same claims because a
descriptor stands behind the template made from it (`Storage.Behind.own`), and its policy comes
back because what was left out of the environment and of the labels once is left out again.
-/

namespace Handover

open Kubernetes

/-! ## Storage -/

/-- A descriptor that stands behind some template stands behind the one made from it: the storage
class that the claim leaves open is the same. -/
theorem Storage.Behind.own {place : Place} {spec : PodSpec} {container : Container}
    {claims : KeyMap String Claim} {template : ClaimTemplate} {claim : Claim}
    {d : StorageDescriptor} (h : Behind place spec container claims template claim d) :
    Behind place spec container claims d.template claim d where
  name := rfl
  mounted := by
    rw [StorageDescriptor.template, h.name]
    exact h.mounted
  found := h.found
  owned := h.owned
  size := h.size
  mountPath := by
    rw [StorageDescriptor.template, h.name]
    exact h.mountPath
  storageClass := by
    rw [StorageDescriptor.template, h.storageClass]
    cases claim.spec.bind (·.storageClassName) <;> simp
  volumeName := h.volumeName
  accessModes := h.accessModes

theorem Storage.names_of_resolve {index : Nat} {pod : Pod} {container : Container}
    {templates : List ClaimTemplate} {claims : KeyMap String Claim}
    {ds : List StorageDescriptor}
    (h : resolve index pod container templates claims = .ok ds) :
    ds.map (·.name) = templates.map (·.name) := by
  obtain ⟨spec, host, -, -, hall⟩ := resolve_eq_ok.mp h
  clear h
  induction hall with
  | nil => rfl
  | cons hbehind _ ih =>
    obtain ⟨claim, hbehind⟩ := hbehind
    rw [List.map_cons, List.map_cons, hbehind.name, ih]

/-- Descriptors of a node, in whatever order, are resolved again from the templates made from
them. -/
theorem Storage.resolve_own {index : Nat} {pod : Pod} {container : Container}
    {templates : List ClaimTemplate} {claims : KeyMap String Claim}
    {ds ds' : List StorageDescriptor}
    (h : resolve index pod container templates claims = .ok ds) (hsub : ∀ d ∈ ds', d ∈ ds) :
    resolve index pod container (ds'.map StorageDescriptor.template) claims = .ok ds' := by
  obtain ⟨spec, host, hspec, hhost, hall⟩ := resolve_eq_ok.mp h
  refine resolve_eq_ok.mpr ⟨spec, host, hspec, hhost, ?_⟩
  rw [List.forall₂_map_left_iff, List.forall₂_same]
  intro d hd
  obtain ⟨k, hk⟩ := List.mem_iff_getElem?.mp (hsub d hd)
  obtain ⟨template, -, claim, hbehind⟩ := getElem?_of_forall₂ hall hk
  exact ⟨claim, hbehind.own⟩

/-- Only the volume for failover decides about failover. -/
theorem Storage.failover_congr {index : Nat} {pod : String} {mode : WalFailover}
    {ds ds' : List StorageDescriptor}
    (h : ds.find? (·.name = Names.failoverVolume) = ds'.find? (·.name = Names.failoverVolume)) :
    failover index pod mode ds = failover index pod mode ds' := by
  unfold failover
  rw [h]

/-! ## Nodes -/

namespace NodeObservation

/-- The node with its volume for failover behind the others. -/
def failoverLast (n : NodeObservation) : NodeObservation :=
  { n with storage := n.dataStorage ++ n.storage.filter (·.name = Names.failoverVolume) }

/-- The volume for failover stays the same. -/
theorem failoverVolume?_failoverLast (n : NodeObservation) :
    n.failoverLast.failoverVolume? = n.failoverVolume? := by
  have hdata : n.dataStorage.find? (·.name = Names.failoverVolume) = none := by
    rw [List.find?_eq_none]
    intro d hd
    simpa using (List.mem_filter.mp hd).2
  rw [failoverVolume?, failoverLast, List.find?_append, hdata, Option.none_or, List.find?_filter]
  simp [failoverVolume?]

theorem mem_of_mem_failoverLast {n : NodeObservation} {d : StorageDescriptor}
    (h : d ∈ n.failoverLast.storage) : d ∈ n.storage := by
  rcases List.mem_append.mp h with h | h
  · exact List.mem_of_mem_filter h
  · exact List.mem_of_mem_filter h

/-- Where names are distinct, there is at most one volume to be put last. -/
theorem storage_failoverLast {n : NodeObservation} (h : (n.storage.map (·.name)).Nodup) :
    n.failoverLast.storage = n.dataStorage ++ n.failoverVolume?.toList :=
  congrArg (n.dataStorage ++ ·) (filter_eq_toList_find? h)

end NodeObservation

/-- The CrdbNode of a node with a data volume declares the volumes in the order of `failoverLast`,
and no default one. -/
theorem CrdbNodes.IsBuilt.templates {index : Nat} {pod : String} {o : ClusterObservation}
    {n : NodeObservation} {target : Target} {c : CrdbNode} (hc : IsBuilt o n target c)
    (hfailover : Storage.failover index pod n.walFailover n.storage = .ok n.failover)
    (hdistinct : (n.storage.map (·.name)).Nodup)
    (hdata : ∃ d ∈ n.storage, d.name ≠ Names.failoverVolume) :
    c.spec.templates = n.failoverLast.storage.map StorageDescriptor.template := by
  have hstores : c.spec.dataStores ≠ [] := by
    obtain ⟨d, hd, hne⟩ := hdata
    have hmem : d ∈ n.dataStorage := List.mem_filter.mpr ⟨hd, by simpa using hne⟩
    intro hnil
    have hempty := hc.stores
    rw [hnil] at hempty
    rw [List.map_eq_nil_iff.mp hempty.symm] at hmem
    cases hmem
  rw [CrdbNodeSpec.templates_of_stores hstores, hc.ownTemplates hfailover,
    NodeObservation.storage_failoverLast hdistinct]

/-- A pod with one container runs the database in it, whatever it is called. -/
theorem databaseContainer_of_single {pod : Pod} {name : String} {container : Container}
    (hsingle : ∀ spec, pod.spec = some spec → spec.containers.length = 1)
    (h : databaseContainer pod name = .ok container) (name' : String) :
    databaseContainer pod name' = .ok container := by
  obtain ⟨spec, hspec, hcontainer⟩ := Option.bind_eq_some_iff.mp (Outcome.required_eq_ok.mp h)
  obtain ⟨only, honly⟩ := List.length_eq_one_iff.mp (hsingle spec hspec)
  have hany (preferred : String) : spec.container? preferred = some only := by
    rw [PodSpec.container?, honly]
    by_cases hname : only.name = preferred <;> simp [hname]
  refine Outcome.required_eq_ok.mpr (Option.bind_eq_some_iff.mpr ⟨spec, hspec, ?_⟩)
  rw [hany, ← hcontainer, hany]

/-- A node is observed again, from the templates of the CrdbNode that was built for it. -/
theorem observeNode_of_built {name : String} {claims : KeyMap String Claim} {index : Nat}
    {pod : Pod} {templates : List ClaimTemplate} {o : ClusterObservation} {n : NodeObservation}
    {target : Target} {c : CrdbNode}
    (hdistinct : (templates.map (·.name)).Nodup)
    (hdata : ∃ template ∈ templates, template.name ≠ Names.failoverVolume)
    (hsingle : ∀ spec, pod.spec = some spec → spec.containers.length = 1)
    (hnode : observeNode name claims index pod templates = .ok n)
    (hbuilt : CrdbNodes.IsBuilt o n target c) (name' : String) :
    observeNode name' claims index pod c.spec.templates = .ok n.failoverLast := by
  obtain ⟨container, hcontainer, hflags, hmode, hstorage, hfailover, hindex, hpod, hhost⟩ :=
    observeNode_eq_ok.mp hnode
  have hnames := Storage.names_of_resolve hstorage
  have hdata' : ∃ d ∈ n.storage, d.name ≠ Names.failoverVolume := by
    obtain ⟨template, htemplate, hne⟩ := hdata
    have hname : template.name ∈ n.storage.map (·.name) := hnames ▸ List.mem_map_of_mem htemplate
    obtain ⟨d, hd, hdname⟩ := List.mem_map.mp hname
    exact ⟨d, hd, hdname ▸ hne⟩
  rw [← hnames] at hdistinct
  refine observeNode_eq_ok.mpr ⟨container, databaseContainer_of_single hsingle hcontainer name',
    hflags, hmode, ?_, ?_, hindex, hpod, hhost⟩
  · rw [hbuilt.templates hfailover hdistinct hdata']
    exact Storage.resolve_own hstorage fun _ => NodeObservation.mem_of_mem_failoverLast
  · rw [Storage.failover_congr n.failoverVolume?_failoverLast]
    exact hfailover

/-! ## Policies -/

theorem userEnv_userEnv (env : List EnvVar) : userEnv (userEnv env) = userEnv env := by
  simp [userEnv]

theorem userLabels_userLabels (labels : Labels) :
    userLabels (userLabels labels) = userLabels labels := by
  simp [userLabels, KeyMap.filter]

/-- The variable that a CrdbNode adds is none that a user has set. -/
theorem userEnv_hostAddress (env : List EnvVar) :
    userEnv (env ++ [CrdbNodes.hostAddress]) = userEnv env := by
  have hmanaged : CrdbNodes.hostAddress.name ∈ Names.managedEnv := by decide
  simp [userEnv, hmanaged]

/-! ## Controllers -/

/-- The volumes that a StatefulSet declares. -/
def Kubernetes.StatefulSet.templates (s : StatefulSet) : List ClaimTemplate :=
  ClaimTemplate.ofClaims ((s.spec.bind (·.volumeClaimTemplates)).getD [])

/-- What a StatefulSet declares holds for every node, and its policy is a user's. -/
theorem declared_statefulSet {inventory : Inventory} {s : StatefulSet} {pod : Pod} {d : Declared}
    (hcontroller : inventory.controller = .statefulSet s)
    (h : declared inventory pod = .ok d) :
    d.source = .statefulSet ∧ (∀ i, d.templates i = s.templates)
      ∧ userEnv d.policy.env = d.policy.env ∧ userLabels d.policy.labels = d.policy.labels := by
  rw [declared, hcontroller] at h
  obtain ⟨spec, hspec, h⟩ := Outcome.bind_eq_ok.mp h
  obtain ⟨podSpec, -, h⟩ := Outcome.bind_eq_ok.mp h
  obtain ⟨container, -, h⟩ := Outcome.bind_eq_ok.mp h
  obtain rfl := Outcome.pure_eq_ok.mp h
  refine ⟨rfl, fun _ => ?_, userEnv_userEnv _, userLabels_userLabels _⟩
  rw [StatefulSet.templates, Outcome.required_eq_ok.mp hspec, Option.bind_some]

/-! ## Clusters -/

/-- One observation is another one made from CrdbNodes: it says the same of the cluster and of each
of its nodes, and only the order of volumes may differ. -/
structure ClusterObservation.IsReadBackAs (o o' : ClusterObservation) : Prop where
  cluster : o'.cluster = o.cluster
  ns : o'.ns = o.ns
  source : o'.source = .crdbNode
  secure : o'.secure = o.secure
  policy : o'.policy = o.policy
  publicService : o'.publicService = o.publicService
  logging : o'.logging.map (·.name) = o.logging.map (·.name)
  nodes : o'.nodes = o.nodes.map NodeObservation.failoverLast

/-- A cluster that was observed under a StatefulSet is observed again when the CrdbNodes that were
built for its nodes are put in the place of the StatefulSet. -/
theorem observe_of_built {inventory : Inventory} {s : StatefulSet} {o : ClusterObservation}
    {trust : TrustMap} {target : Target} {built : List CrdbNode}
    (hcontroller : inventory.controller = .statefulSet s)
    (hdistinct : (s.templates.map (·.name)).Nodup)
    (hdata : ∃ template ∈ s.templates, template.name ≠ Names.failoverVolume)
    (hsingle : ∀ pod ∈ inventory.pods, ∀ spec, pod.spec = some spec →
      spec.containers.length = 1)
    (himage : target.image = none)
    (hobserve : observe inventory = .ok o)
    (hbuilt : o.nodes.mapM (fun n => CrdbNodes.node o n trust target) = .ok built) :
    ∃ o', observe { inventory with controller := .crdbNodes built } = .ok o'
      ∧ o.IsReadBackAs o' := by
  obtain ⟨pod, pods, d, first, others, hpods, hd, hall, rfl⟩ := observe_eq_ok.mp hobserve
  obtain ⟨-, htemplates, henv, hlabels⟩ := declared_statefulSet hcontroller hd
  rw [Outcome.mapM_eq_ok] at hbuilt
  obtain ⟨c, cs, hfirst, -, rfl⟩ := List.forall₂_cons_left_iff.mp hbuilt
  have hc : CrdbNodes.IsBuilt _ first target c := CrdbNodes.isBuilt hfirst
  have hcontroller' : ({ inventory with controller := .crdbNodes (c :: cs) } : Inventory).controller
      = .crdbNodes (c :: cs) := rfl
  obtain ⟨d', hd', hsource', hpolicy, hlogging, htemplates'⟩ := declared_crdbNodes hcontroller' pod
  have hall' : List.Forall₂ (IsObserved d' { inventory with controller := .crdbNodes (c :: cs) })
      inventory.pods.zipIdx ((first :: others).map NodeObservation.failoverLast) := by
    refine List.forall₂_map_right_iff.mpr (forall₂_of_getElem? hall.length_eq ?_)
    intro i numbered n hnumbered hn
    obtain ⟨numbered', hnumbered', hnode⟩ := getElem?_of_forall₂ hall hn
    obtain rfl := Option.some.inj (hnumbered.symm.trans hnumbered')
    obtain ⟨c', hc', hbuiltNode⟩ := getElem?_of_forall₂ hbuilt.flip hn
    rw [List.getElem?_zipIdx, Option.map_eq_some_iff] at hnumbered
    obtain ⟨p, hp, rfl⟩ := hnumbered
    rw [IsObserved, htemplates, Nat.zero_add] at hnode
    rw [IsObserved, Nat.zero_add, htemplates' hc']
    exact observeNode_of_built hdistinct hdata (hsingle p (List.mem_of_getElem? hp)) hnode
      (CrdbNodes.isBuilt hbuiltNode) _
  refine ⟨_, observe_eq_ok.mpr ⟨pod, pods, d', _, _, hpods, hd', hall', rfl⟩, ?_⟩
  exact {
    cluster := rfl
    ns := rfl
    source := hsource'
    secure := rfl
    policy := by
      refine hpolicy.trans (hc.policy.trans ?_)
      rw [himage, Option.none_or, userEnv_hostAddress]
      show ({ d.policy with env := userEnv d.policy.env, labels := userLabels d.policy.labels }
        : PodPolicy) = d.policy
      rw [henv, hlabels]
    publicService := rfl
    logging := by
      show d'.logging.map (·.name) = d.logging.map (·.name)
      rw [hlogging, hc.logging, Option.map_map]
      exact Option.map_id'
    nodes := rfl }

/-- The small cluster, whose nodes fail over to the volume that is declared first, is observed
again from its CrdbNodes. -/
theorem smallCluster_readBack :
    ∃ inventory o built,
      Inventory.read (SmallCluster.store ["--wal-failover=path=/w"] Names.claimName)
          .statefulSet "n" "c-1" = .ok inventory
        ∧ observe inventory = .ok o
        ∧ o.nodes.mapM (fun n =>
            CrdbNodes.node o n (TrustMap.ofObservation .toCrdbNodes o) {}) = .ok built
        ∧ built.length = 2
        ∧ ∃ o', observe { inventory with controller := .crdbNodes built } = .ok o'
          ∧ o.IsReadBackAs o' := by
  have hrun : (do
      let inventory ← Inventory.read
        (SmallCluster.store ["--wal-failover=path=/w"] Names.claimName) .statefulSet "n" "c-1"
      let o ← observe inventory
      let built ← o.nodes.mapM (fun n =>
        CrdbNodes.node o n (TrustMap.ofObservation .toCrdbNodes o) {})
      return (inventory.pods.map (·.spec.map (·.containers.length)), built.length)
        : Outcome (List (Option Nat) × Nat)) = .ok ([some 1, some 1], 2) := by
    decide +kernel
  obtain ⟨inventory, hread, hrun⟩ := Outcome.bind_eq_ok.mp hrun
  obtain ⟨o, hobserve, hrun⟩ := Outcome.bind_eq_ok.mp hrun
  obtain ⟨built, hbuilt, hrun⟩ := Outcome.bind_eq_ok.mp hrun
  obtain ⟨hpods, hlength⟩ := Prod.mk.inj (Outcome.pure_eq_ok.mp hrun)
  obtain ⟨s, hcontroller, hs⟩ := (Inventory.isRead hread).statefulSet
  have hnames : s.templates.map (·.name) = ["failoverdir", "d"] := by
    have hdeclared : ((SmallCluster.store ["--wal-failover=path=/w"] Names.claimName).statefulSet?
        "n" "c-1").map (·.templates.map (·.name)) = some ["failoverdir", "d"] := by
      decide +kernel
    rw [hs] at hdeclared
    exact Option.some.inj hdeclared
  refine ⟨inventory, o, built, hread, hobserve, hbuilt, hlength,
    observe_of_built hcontroller ?_ ?_ ?_ rfl hobserve hbuilt⟩
  · rw [hnames]
    decide
  · have hmem : "d" ∈ s.templates.map (·.name) := by
      rw [hnames]
      decide
    obtain ⟨template, htemplate, hname⟩ := List.mem_map.mp hmem
    refine ⟨template, htemplate, ?_⟩
    rw [hname]
    decide
  · intro pod hpod spec hspec
    have hmem := List.mem_map_of_mem (f := fun p : Pod => p.spec.map (·.containers.length)) hpod
    rw [hpods, hspec] at hmem
    simpa using hmem

end Handover
