import Handover.Proofs.FileNames

/-!
# Nodes stay apart

All claims of a cluster are in one map, and what holds for the cluster as a whole is taken from its
first node. So that one node has no say in the files of another has to come from the names: a node
is observed on the pod with its number, and looks at no claim that is not named after this pod
(`Storage.Behind.unique`). Two stores that differ in a pod other than the first and in the claims
named after it are observed alike but for this node (`ObjectStore.AlikeBut.observe`), and give the
same files but for the one of this node (`synthesize_nodesApart`).
-/

namespace Handover

open Kubernetes

/-! ## Stores that differ in one node -/

/-- Two stores show the same of a cluster under a StatefulSet but for one of its nodes: its pod, and
the claims that are named after it. -/
structure ObjectStore.AlikeBut (store store' : ObjectStore) (ns cluster : String) (j : Nat) :
    Prop where
  controller : store'.statefulSet? ns cluster = store.statefulSet? ns cluster
  pods : ∀ i, i ≠ j →
    store'.pod? ns (Names.nodeName cluster i) = store.pod? ns (Names.nodeName cluster i)
  claims : ∀ name, Text.endsWith name s!"-{Names.nodeName cluster j}" = false →
    store'.claim? ns name = store.claim? ns name

/-! ## Nodes by the claims of their own -/

/-- Two maps of claims have nothing different under a name that a pod can own. -/
def Storage.AgreeOn (claims claims' : KeyMap String Claim) (pod : String) : Prop :=
  ∀ {name}, Text.endsWith name s!"-{pod}" = true → ∀ {claim claim'},
    claims.get? name = some claim → claims'.get? name = some claim' → claim' = claim

/-- What is described for a template is settled by the claim that the pod mounts, which the pod must
own. -/
theorem Storage.Behind.unique {place : Storage.Place} {spec : PodSpec} {container : Container}
    {claims claims' : KeyMap String Claim} {template : ClaimTemplate} {claim claim' : Claim}
    {d d' : StorageDescriptor} (h : Behind place spec container claims template claim d)
    (h' : Behind place spec container claims' template claim' d')
    (hclaims : AgreeOn claims claims' place.pod) : d' = d := by
  have hname : d'.claimName = d.claimName := h'.mounted.unique h.mounted
  have hfound := h'.found
  rw [hname] at hfound
  obtain rfl := hclaims h.endsWith h.found hfound
  have hsize : d'.size = d.size := h'.size.unique h.size
  have hpath : d'.mountPath = d.mountPath := h'.mountPath.unique h.mountPath
  have hclass := h'.storageClass.trans h.storageClass.symm
  have hvolume := h'.volumeName.trans h.volumeName.symm
  have hmodes := h'.accessModes.trans h.accessModes.symm
  have htemplate := h'.name.trans h.name.symm
  cases d
  cases d'
  simp_all

/-- Claims that a pod does not own have no part in what is observed of its node. -/
theorem observeNode_unique {name : String} {claims claims' : KeyMap String Claim} {index : Nat}
    {pod : Pod} {templates : List ClaimTemplate} {n n' : NodeObservation}
    (h : observeNode name claims index pod templates = .ok n)
    (h' : observeNode name claims' index pod templates = .ok n')
    (hclaims : Storage.AgreeOn claims claims' pod.metadata.nameText) : n' = n := by
  obtain ⟨container, hcontainer, hflags, hmode, hstorage, hfailover, hindex, hname, hhost⟩ :=
    observeNode_eq_ok.mp h
  obtain ⟨container', hcontainer', hflags', hmode', hstorage', hfailover', hindex', hname',
    hhost'⟩ := observeNode_eq_ok.mp h'
  obtain rfl := Except.ok.inj (hcontainer.symm.trans hcontainer')
  have hf : n'.flags = n.flags := Except.ok.inj (hflags'.symm.trans hflags)
  rw [hf] at hmode'
  have hm : n'.walFailover = n.walFailover := Except.ok.inj (hmode'.symm.trans hmode)
  have hs : n'.storage = n.storage := by
    obtain ⟨spec, host, hspec, hhost, hall⟩ := Storage.resolve_eq_ok.mp hstorage
    obtain ⟨spec', host', hspec', hhost', hall'⟩ := Storage.resolve_eq_ok.mp hstorage'
    obtain rfl := Option.some.inj (hspec.symm.trans hspec')
    obtain rfl := Option.some.inj (hhost.symm.trans hhost')
    refine eq_of_forall₂ ?_ hall hall'
    rintro template d d' ⟨claim, hd⟩ ⟨claim', hd'⟩
    exact hd.unique hd' hclaims
  rw [hm, hs] at hfailover'
  have hv : n'.failover = n.failover := Except.ok.inj (hfailover'.symm.trans hfailover)
  have hi := hindex'.trans hindex.symm
  have hp := hname'.trans hname.symm
  have hh := hhost'.trans hhost.symm
  cases n
  cases n'
  simp_all

/-! ## What is read and observed -/

section Observed

variable {store store' : ObjectStore} {ns cluster : String} {j : Nat}
  {inventory inventory' : Inventory}

theorem ObjectStore.AlikeBut.controller_eq (h : store.AlikeBut store' ns cluster j)
    (hinv : Inventory.IsRead store .statefulSet ns cluster inventory)
    (hinv' : Inventory.IsRead store' .statefulSet ns cluster inventory') :
    inventory'.controller = inventory.controller
      ∧ inventory'.pods.length = inventory.pods.length := by
  have hcontroller := hinv'.controller
  rw [Inventory.readController, h.controller] at hcontroller
  exact Prod.mk.inj (Except.ok.inj (hcontroller.symm.trans hinv.controller))

theorem ObjectStore.AlikeBut.getElem?_pods (h : store.AlikeBut store' ns cluster j)
    (hinv : Inventory.IsRead store .statefulSet ns cluster inventory)
    (hinv' : Inventory.IsRead store' .statefulSet ns cluster inventory') {i : Nat} (hi : i ≠ j) :
    inventory'.pods[i]? = inventory.pods[i]? := by
  refine getElem?_eq_of_length_eq (h.controller_eq hinv hinv').2 fun {pod pod'} hpod hpod' => ?_
  obtain ⟨_, hread⟩ := hinv.pod hpod
  obtain ⟨_, hread'⟩ := hinv'.pod hpod'
  have hstored' := (Inventory.readPod_eq_ok.mp hread').1
  rw [h.pods i hi, (Inventory.readPod_eq_ok.mp hread).1] at hstored'
  exact (Option.some.inj hstored').symm

theorem ObjectStore.AlikeBut.agreeOn (h : store.AlikeBut store' ns cluster j)
    (hinv : Inventory.IsRead store .statefulSet ns cluster inventory)
    (hinv' : Inventory.IsRead store' .statefulSet ns cluster inventory') {i : Nat} (hi : i ≠ j) :
    Storage.AgreeOn inventory.claims inventory'.claims (Names.nodeName cluster i) := by
  intro name hname claim claim' hclaim hclaim'
  -- no name ends in those of two nodes, though one number may end in another
  have hother : Text.endsWith name s!"-{Names.nodeName cluster j}" = false :=
    Bool.eq_false_iff.mpr fun hj => hi (Names.eq_of_endsWith_nodeName hname hj)
  have hstored' := hinv'.claims hclaim'
  rw [h.claims name hother, hinv.claims hclaim] at hstored'
  exact (Option.some.inj hstored').symm

/-- Two observations agree but for one node and for the service, which no file of CrdbNodes
mentions. -/
structure ClusterObservation.AlikeBut (o o' : ClusterObservation) (j : Nat) : Prop where
  shared : { o' with publicService := none, others := [] }
    = { o with publicService := none, others := [] }
  length_eq : o'.nodes.length = o.nodes.length
  nodes : ∀ i, i ≠ j → o'.nodes[i]? = o.nodes[i]?

theorem declared_congr (hcontroller : inventory'.controller = inventory.controller)
    (hcluster : inventory'.cluster = inventory.cluster) (pod : Pod) :
    declared inventory' pod = declared inventory pod := by
  rw [declared, declared, hcontroller, hcluster]

/-- What is observed of all other nodes, and of the cluster as a whole, is the same. -/
theorem ObjectStore.AlikeBut.observe {o o' : ClusterObservation}
    (h : store.AlikeBut store' ns cluster j) (hj : j ≠ 0)
    (hread : Inventory.read store .statefulSet ns cluster = .ok inventory)
    (hobserve : Handover.observe inventory = .ok o)
    (hread' : Inventory.read store' .statefulSet ns cluster = .ok inventory')
    (hobserve' : Handover.observe inventory' = .ok o') : o.AlikeBut o' j := by
  have hinv := Inventory.isRead hread
  have hinv' := Inventory.isRead hread'
  have hns : inventory'.ns = inventory.ns := hinv'.ns_eq.trans hinv.ns_eq.symm
  have hcluster : inventory'.cluster = inventory.cluster :=
    hinv'.cluster_eq.trans hinv.cluster_eq.symm
  obtain ⟨hcontroller, hlength⟩ := h.controller_eq hinv hinv'
  obtain ⟨pod, pods, d, first, others, hpods, hd, hall, rfl⟩ := observe_eq_ok.mp hobserve
  obtain ⟨pod', pods', d', first', others', hpods', hd', hall', rfl⟩ := observe_eq_ok.mp hobserve'
  -- what is declared for the cluster as a whole is taken from the first pod, which is the same
  have hfirst : pod' = pod := by
    have hzero := h.getElem?_pods hinv hinv' hj.symm
    rw [hpods, hpods'] at hzero
    exact Option.some.inj hzero
  rw [hfirst, declared_congr hcontroller hcluster] at hd'
  obtain rfl := Except.ok.inj (hd'.symm.trans hd)
  have hnodes : (first' :: others').length = (first :: others).length := by
    rw [← hall.length_eq, ← hall'.length_eq, List.length_zipIdx, List.length_zipIdx, hlength]
  -- any other node is observed on the same pod, from two maps that agree on what the pod owns
  have hnode {i : Nat} (hi : i ≠ j) : (first' :: others')[i]? = (first :: others)[i]? := by
    refine getElem?_eq_of_length_eq hnodes fun {n n'} hn hn' => ?_
    obtain ⟨p, hp, hobserved⟩ := exists_isObserved hall hn
    obtain ⟨p', hp', hobserved'⟩ := exists_isObserved hall' hn'
    rw [h.getElem?_pods hinv hinv' hi, hp] at hp'
    obtain rfl := Option.some.inj hp'
    refine observeNode_unique hobserved hobserved' ?_
    rw [hinv.nameText hp]
    exact h.agreeOn hinv hinv' hi
  have hsame : first' = first := Option.some.inj (hnode hj.symm)
  exact {
    shared := by
      simp only [Declared.observation, hns, hcluster, hsame]
    length_eq := hnodes
    nodes := fun i hi => hnode hi }

end Observed

/-! ## Files -/

section Files

variable {o o' : ClusterObservation} {j : Nat} {trust : TrustMap} {target : Target}

theorem ClusterObservation.AlikeBut.exists_eq_with (h : o.AlikeBut o' j) :
    ∃ service others, o' = { o with publicService := service, others := others } := by
  refine ⟨o'.publicService, o'.others, ?_⟩
  cases o
  cases o'
  have hshared := h.shared
  simp only [ClusterObservation.mk.injEq] at hshared ⊢
  simp [hshared]

theorem ClusterObservation.AlikeBut.trust_eq (h : o.AlikeBut o' j) (direction : Direction) :
    TrustMap.ofObservation direction o' = TrustMap.ofObservation direction o := by
  obtain ⟨service, others, rfl⟩ := h.exists_eq_with
  rfl

namespace CrdbNodes

/-- A CrdbNode is built from its own node and from what holds for the cluster as a whole. -/
theorem node_of_alikeBut (h : o.AlikeBut o' j) (n : NodeObservation) :
    node o' n trust target = node o n trust target := by
  obtain ⟨service, others, rfl⟩ := h.exists_eq_with
  rfl

theorem getElem?_built (h : o.AlikeBut o' j) {built built' : List CrdbNode}
    (hbuilt : List.Forall₂ (fun n c => node o n trust target = .ok c) o.nodes built)
    (hbuilt' : List.Forall₂ (fun n c => node o' n trust target = .ok c) o'.nodes built')
    {i : Nat} (hi : i ≠ j) : built'[i]? = built[i]? := by
  have hlength : built'.length = built.length := by
    rw [← hbuilt.length_eq, ← hbuilt'.length_eq, h.length_eq]
  refine getElem?_eq_of_length_eq hlength fun {c c'} hc hc' => ?_
  obtain ⟨n, hn, hnode⟩ := getElem?_of_forall₂ hbuilt hc
  obtain ⟨n', hn', hnode'⟩ := getElem?_of_forall₂ hbuilt' hc'
  rw [h.nodes i hi, hn] at hn'
  obtain rfl := Option.some.inj hn'
  rw [node_of_alikeBut h] at hnode'
  exact Except.ok.inj (hnode'.symm.trans hnode)

/-- The values count the nodes, and speak of the first one alone. -/
theorem values_of_alikeBut (h : o.AlikeBut o' j) {built built' : List CrdbNode}
    (hfirst : built'[0]? = built[0]?) :
    values o' built' trust target = values o built trust target := by
  have hlength := h.length_eq
  obtain ⟨service, others, rfl⟩ := h.exists_eq_with
  have hregion (code : String) :
      regionValues { o with publicService := service, others := others } target code
        = regionValues o target code := by
    simp only [regionValues, hlength]
  simp only [values, clusterValues, hregion, List.head?_eq_getElem?, hfirst]
  rfl

theorem filter_manifests {built built' : List CrdbNode} (chart : Yaml.Value)
    (hlength : built'.length = built.length) (h : ∀ i, i ≠ j → built'[i]? = built[i]?) :
    (manifests built' chart).filter (·.name ≠ numberedName "crdbnode" j)
      = (manifests built chart).filter (·.name ≠ numberedName "crdbnode" j) := by
  refine filter_eq_of_forall₂ (List.rel_append ?_ (.cons (.inl rfl) .nil))
  refine forall₂_of_getElem? (by simp [hlength]) fun {i file file'} hfile hfile' => ?_
  have hget (nodes : List CrdbNode) :
      (nodes.zipIdx.map fun e => nodeFile e.2 e.1)[i]? = nodes[i]?.map (nodeFile i) := by
    simp [List.getElem?_zipIdx, Function.comp_def]
  rw [hget] at hfile hfile'
  by_cases hi : i = j
  · subst hi
    obtain ⟨c, -, rfl⟩ := Option.map_eq_some_iff.mp hfile
    obtain ⟨c', -, rfl⟩ := Option.map_eq_some_iff.mp hfile'
    exact .inr ⟨decide_eq_false (not_not_intro rfl), decide_eq_false (not_not_intro rfl)⟩
  · rw [h i hi] at hfile'
    exact .inl (Option.some.inj (hfile'.symm.trans hfile))

end CrdbNodes

/-- No node has a say in the files of another. When a cluster under a StatefulSet is read in two
stores that differ in the pod of one node, though not of the first, and in claims that are named
after it, its trust material is renamed alike, there are files of the same names, and all of them
but the CrdbNode of this node are the same. -/
theorem synthesize_nodesApart {store store' : ObjectStore} {ns cluster : String}
    {inventory inventory' : Inventory} {files files' : List ManifestFile}
    (halike : store.AlikeBut store' ns cluster j) (hj : j ≠ 0)
    (hread : Inventory.read store .statefulSet ns cluster = .ok inventory)
    (hobserve : observe inventory = .ok o)
    (hfiles : synthesize .toCrdbNodes o trust target = .ok files)
    (hread' : Inventory.read store' .statefulSet ns cluster = .ok inventory')
    (hobserve' : observe inventory' = .ok o')
    (hfiles' : synthesize .toCrdbNodes o' trust target = .ok files') :
    TrustMap.ofObservation .toCrdbNodes o' = TrustMap.ofObservation .toCrdbNodes o
      ∧ files.map (·.name)
        = (List.range o.nodes.length).map (numberedName "crdbnode") ++ ["values.yaml"]
      ∧ files'.map (·.name) = files.map (·.name)
      ∧ files'.filter (·.name ≠ numberedName "crdbnode" j)
        = files.filter (·.name ≠ numberedName "crdbnode" j) := by
  have hobserved := halike.observe hj hread hobserve hread' hobserve'
  obtain ⟨-, hfiles⟩ := synthesize_toCrdbNodes_eq_ok.mp hfiles
  obtain ⟨-, hfiles'⟩ := synthesize_toCrdbNodes_eq_ok.mp hfiles'
  obtain ⟨built, chart, hbuilt, hchart, rfl⟩ := CrdbNodes.files_eq_ok.mp hfiles
  obtain ⟨built', chart', hbuilt', hchart', rfl⟩ := CrdbNodes.files_eq_ok.mp hfiles'
  have hsame (i : Nat) (hi : i ≠ j) : built'[i]? = built[i]? :=
    CrdbNodes.getElem?_built hobserved hbuilt hbuilt' hi
  have hlength : built'.length = built.length := by
    rw [← hbuilt.length_eq, ← hbuilt'.length_eq, hobserved.length_eq]
  rw [CrdbNodes.values_of_alikeBut hobserved (hsame 0 hj.symm)] at hchart'
  obtain rfl := Except.ok.inj (hchart'.symm.trans hchart)
  refine ⟨hobserved.trust_eq _, ?_, ?_, CrdbNodes.filter_manifests _ hlength hsame⟩
  · rw [names_crdbNodes, hbuilt.length_eq]
  · rw [names_crdbNodes, names_crdbNodes, hlength]

end Files

/-! ## A small cluster with a node that has moved -/

/-- Another pod in the place of one and another claim that is named after it change no more than
one node. -/
theorem ObjectStore.alikeBut_put {store : ObjectStore} {ns cluster : String} {j : Nat} {pod : Pod}
    {claim : Claim} (hpod : ObjectKey.of pod = ⟨ns, Names.nodeName cluster j⟩)
    (hclaim : Text.endsWith (ObjectKey.of claim).name s!"-{Names.nodeName cluster j}" = true) :
    store.AlikeBut
      { store with pods := store.pods.put pod, claims := store.claims.put claim } ns cluster j where
  controller := rfl
  pods i hi := by
    refine KeyMap.get?_insert_of_ne ?_ store.pods.map pod
    rw [hpod]
    exact fun heq => hi (Names.nodeName_injective (congrArg ObjectKey.name heq))
  claims name hname := by
    refine KeyMap.get?_insert_of_ne ?_ store.claims.map claim
    rintro heq
    rw [← heq, hname] at hclaim
    cases hclaim

namespace SmallCluster

/-- The second pod on another host, with another flag. -/
def movedPod : Pod :=
  let pod := pod ["start", "--cache=1"] Names.claimName "c-1-1"
  { pod with spec := pod.spec.map fun spec => { spec with nodeName := some "k" } }

/-- The claim of its store, bound to another volume. -/
def movedClaim : Claim :=
  let claim := claim (Names.claimName "d" "c-1-1")
  { claim with spec := claim.spec.map fun spec => { spec with volumeName := some "u" } }

/-- The small cluster with another second node. -/
def movedStore : ObjectStore :=
  let store := store ["start"] Names.claimName
  { store with pods := store.pods.put movedPod, claims := store.claims.put movedClaim }

/-- The hosts of the nodes of a small cluster for which there are CrdbNodes. -/
def hosts (store : ObjectStore) : Outcome (List String) := do
  let inventory ← Inventory.read store .statefulSet "n" "c-1"
  let o ← observe inventory
  let _ ← synthesize .toCrdbNodes o {} { region := some "r" }
  return o.nodes.map (·.host)

theorem exists_of_hosts (store : ObjectStore) (names : List String) (h : hosts store = .ok names) :
    ∃ inventory o files, Inventory.read store .statefulSet "n" "c-1" = .ok inventory
      ∧ observe inventory = .ok o ∧ o.nodes.map (·.host) = names
      ∧ synthesize .toCrdbNodes o {} { region := some "r" } = .ok files := by
  obtain ⟨inventory, hread, h⟩ := Outcome.bind_eq_ok.mp h
  obtain ⟨o, hobserve, h⟩ := Outcome.bind_eq_ok.mp h
  obtain ⟨files, hfiles, h⟩ := Outcome.bind_eq_ok.mp h
  exact ⟨inventory, o, files, hread, hobserve, Outcome.pure_eq_ok.mp h, hfiles⟩

end SmallCluster

/-- The second node of the small cluster moves to another host, and its CrdbNode is the only file
that changes. -/
theorem smallCluster_nodesApart :
    ∃ inventory inventory' o o' files files',
      Inventory.read (SmallCluster.store ["start"] Names.claimName) .statefulSet "n" "c-1"
          = .ok inventory
        ∧ Inventory.read SmallCluster.movedStore .statefulSet "n" "c-1" = .ok inventory'
        ∧ observe inventory = .ok o ∧ observe inventory' = .ok o'
        ∧ o.nodes.map (·.host) = ["h", "h"] ∧ o'.nodes.map (·.host) = ["h", "k"]
        ∧ synthesize .toCrdbNodes o {} { region := some "r" } = .ok files
        ∧ synthesize .toCrdbNodes o' {} { region := some "r" } = .ok files'
        ∧ files.map (·.name) = ["crdbnode-0.yaml", "crdbnode-1.yaml", "values.yaml"]
        ∧ files'.filter (·.name ≠ "crdbnode-1.yaml")
          = files.filter (·.name ≠ "crdbnode-1.yaml") := by
  obtain ⟨inventory, o, files, hread, hobserve, hhosts, hfiles⟩ :=
    SmallCluster.exists_of_hosts (SmallCluster.store ["start"] Names.claimName) ["h", "h"]
      (by decide +kernel)
  obtain ⟨inventory', o', files', hread', hobserve', hhosts', hfiles'⟩ :=
    SmallCluster.exists_of_hosts SmallCluster.movedStore ["h", "k"] (by decide +kernel)
  have halike : (SmallCluster.store ["start"] Names.claimName).AlikeBut SmallCluster.movedStore
      "n" "c-1" 1 :=
    ObjectStore.alikeBut_put rfl (Names.endsWith_claimName "d" "c-1-1")
  obtain ⟨-, hnames, -, hothers⟩ := synthesize_nodesApart halike Nat.one_ne_zero hread hobserve
    hfiles hread' hobserve' hfiles'
  have hcount : o.nodes.length = 2 := by
    rw [← List.length_map (f := (·.host)), hhosts]
    rfl
  rw [hcount] at hnames
  exact ⟨inventory, inventory', o, o', files, files', hread, hread', hobserve, hobserve', hhosts,
    hhosts', hfiles, hfiles', hnames, hothers⟩

end Handover
