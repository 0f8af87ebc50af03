import Handover.Proofs.OperatorCluster
import Handover.Synthesis.Basic

/-!
# Inventories without gaps

Observing looks into an inventory in three ways: for the CrdbNode at the place of a pod, for the
host of a pod, and for the claim that a volume of a pod refers to. Reading has been there before: an
inventory that was read has one CrdbNode for each pod, a host for each pod, and the claims of all
volumes and no others (`Inventory.Complete`).

So no look-up goes beyond the end of a list, which is stated as that nothing would come of CrdbNodes
behind the last one (`observe_append`), and a cluster that was read never fails to be observed for
a part that is missing (`Inventory.Complete.avoids_observe`).
-/

namespace Handover

open Kubernetes Manifest

/-! ## Failures that do not occur -/

/-- A run that, if it fails, fails for another reason. -/
def Outcome.Avoids {α : Type} (x : Outcome α) (P : Failure → Prop) : Prop :=
  ∀ failure, x = .error failure → ¬ P failure

namespace Outcome.Avoids

variable {α β : Type} {P : Failure → Prop}

theorem ok (a : α) : Outcome.Avoids (.ok a) P := fun _ => nofun

theorem error {failure : Failure} (h : ¬ P failure) :
    Outcome.Avoids (.error failure : Outcome α) P := by
  intro failure' heq
  obtain rfl := Except.error.inj heq
  exact h

theorem required {failure : Failure} (o : Option α) (h : ¬ P failure) :
    (required failure o).Avoids P := by
  cases o with
  | none => exact error h
  | some a => exact ok a

theorem bind {x : Outcome α} {f : α → Outcome β} (hx : x.Avoids P)
    (hf : ∀ a, x = .ok a → (f a).Avoids P) : (x >>= f).Avoids P := by
  intro failure h
  rcases Outcome.bind_eq_error.mp h with h | ⟨a, ha, h⟩
  · exact hx failure h
  · exact hf a ha failure h

theorem mapM {f : α → Outcome β} {as : List α} (h : ∀ a ∈ as, (f a).Avoids P) :
    (as.mapM f).Avoids P := by
  intro failure hfailed
  obtain ⟨a, ha, hfailed⟩ := Outcome.exists_of_mapM_eq_error hfailed
  exact h a ha failure hfailed

theorem forM {f : α → Outcome Unit} {as : List α} (h : ∀ a ∈ as, (f a).Avoids P) :
    (as.forM f).Avoids P := by
  induction as with
  | nil => exact ok ()
  | cons a as ih =>
    exact bind (h a List.mem_cons_self) fun _ _ => ih fun a ha => h a (List.mem_cons_of_mem _ ha)

theorem foldlM {f : β → α → Outcome β} {as : List α} (h : ∀ b, ∀ a ∈ as, (f b a).Avoids P) (b : β) :
    (as.foldlM f b).Avoids P := by
  induction as generalizing b with
  | nil => exact ok b
  | cons a as ih =>
    rw [List.foldlM_cons]
    exact bind (h b a List.mem_cons_self) fun b' _ =>
      ih (fun b a ha => h b a (List.mem_cons_of_mem _ ha)) b'

end Outcome.Avoids

/-- Failures for something that an inventory or an observation ought to hold. -/
def Failure.IsGap : Failure → Prop
  | .schedulingIncomplete _ => True
  | .notFound kind _ => kind ∈ ["Pod", "PodSpec", "PersistentVolumeClaim"]
  | .validation .nothingToDescribe => True
  | _ => False

/-! ## Start commands and modes -/

namespace StartCommand

theorem avoids_readPort (flag value : String) : (readPort flag value).Avoids Failure.IsGap := by
  unfold readPort
  split
  · exact .error id
  · split
    · split
      · exact .ok _
      · exact .error id
    · exact .error id

theorem avoids_readAddressPort (flag value : String) :
    (readAddressPort flag value).Avoids Failure.IsGap := by
  unfold readAddressPort
  split
  · split
    · exact .ok _
    · exact .bind (avoids_readPort _ _) fun port _ => .ok _
  · exact .ok _

theorem avoids_readBool (flag value : String) : (readBool flag value).Avoids Failure.IsGap := by
  unfold readBool
  split
  · exact .ok _
  · split
    · exact .ok _
    · exact .error id

theorem avoids_addFlag (s : Settled) (name value : String) :
    (s.addFlag name value).Avoids Failure.IsGap := by
  unfold Settled.addFlag
  split
  all_goals first
    | exact .ok _
    | exact .bind (avoids_readPort _ _) fun port _ => .ok _
    | exact .bind (avoids_readAddressPort _ _) fun port _ => .ok _
    | exact .bind (avoids_readBool _ _) fun b _ => .ok _
    | exact .bind (.mapM fun tier _ => .required _ id) fun tiers _ => .ok _
    | split <;> exact .ok _

theorem avoids_parse (parts : List String) : (parse parts).Avoids Failure.IsGap := by
  refine .bind (.foldlM (fun s occurrence _ => ?_) _) fun settled _ => .ok _
  cases occurrence with
  | flag name value => exact avoids_addFlag s name value
  | stray word => exact .error id

end StartCommand

theorem WalFailover.avoids_classify (value : Option String) (storeCount : Nat) :
    (classify value storeCount).Avoids Failure.IsGap := by
  unfold classify
  split
  · exact .ok _
  · split
    · exact .ok _
    · split
      · split
        · exact .ok _
        · exact .error id
      · split
        · split
          · exact .ok _
          · exact .error id
        · exact .error id

/-! ## What reading leaves behind -/

/-- A volume of a pod refers to a claim of this name. -/
def Kubernetes.Pod.RefersTo (pod : Pod) (claimName : String) : Prop :=
  ∃ spec volume source, pod.spec = some spec ∧ volume ∈ spec.volumes.getD []
    ∧ volume.persistentVolumeClaim = some source ∧ source.claimName = claimName

theorem Kubernetes.Pod.refersTo_iff {pod : Pod} {spec : PodSpec} (hspec : pod.spec = some spec)
    {name : String} : pod.RefersTo name ↔ name ∈ spec.claimNames := by
  simp only [Pod.RefersTo, hspec, Option.some.injEq, PodSpec.claimNames, List.mem_filterMap,
    Option.map_eq_some_iff]
  constructor
  · rintro ⟨_, volume, source, rfl, hvolume, hsource, hname⟩
    exact ⟨volume, hvolume, source, hsource, hname⟩
  · rintro ⟨volume, hvolume, source, hsource, hname⟩
    exact ⟨spec, volume, source, rfl, hvolume, hsource, hname⟩

/-- The claim behind a volume is one of those that the pod refers to. -/
theorem Kubernetes.PodSpec.mem_claimNames {spec : PodSpec} {volume name : String}
    (h : spec.claimName? volume = some name) : name ∈ spec.claimNames := by
  rw [PodSpec.claimName?, Option.map_eq_some_iff] at h
  obtain ⟨source, hsource, hname⟩ := h
  obtain ⟨v, hv, hsource⟩ := Option.bind_eq_some_iff.mp hsource
  exact List.mem_filterMap.mpr ⟨v, List.mem_of_find?_eq_some hv, by rw [hsource, ← hname]; rfl⟩

theorem Names.nodeName_ne_empty (cluster : String) (i : Nat) : nodeName cluster i ≠ "" := by
  rw [Ne, ← String.toList_inj, toList_nodeName]
  simp

theorem KeyMap.mem_keys_iff {κ α : Type} [Ord κ] [DecidableEq κ] [Std.LawfulEqOrd κ]
    {m : KeyMap κ α} {k : κ} : k ∈ m.keys ↔ ∃ v, m.get? k = some v := by
  simp [keys, get?_eq_some_iff_mem]

namespace Inventory

variable {store : ObjectStore} {ns cluster : String}

/-- Reading the claims with some names adds these names to those that are there. -/
theorem mem_keys_of_readClaims {names : List String} {claims claims' : KeyMap String Claim}
    (h : names.foldlM (readClaim store ns) claims = .ok claims') {name : String} :
    name ∈ claims'.keys ↔ name ∈ claims.keys ∨ name ∈ names := by
  induction names generalizing claims with
  | nil =>
    obtain rfl := Outcome.pure_eq_ok.mp h
    simp
  | cons first names ih =>
    rw [List.foldlM_cons] at h
    obtain ⟨claims₁, hfirst, h⟩ := Outcome.bind_eq_ok.mp h
    obtain ⟨claim, -, hfirst⟩ := Outcome.bind_eq_ok.mp hfirst
    obtain rfl := Outcome.pure_eq_ok.mp hfirst
    have hinsert : name ∈ (claims.insert first claim).keys ↔ name = first ∨ name ∈ claims.keys := by
      rw [KeyMap.mem_keys_iff, KeyMap.mem_keys_iff, KeyMap.get?_insert]
      by_cases hname : name = first <;> simp [hname]
    rw [ih h, hinsert, List.mem_cons, or_left_comm, or_assoc]

/-- Reading pods adds the names that their volumes refer to, and no others. -/
theorem mem_keys_of_readPods : ∀ {count start : Nat} {claims claims' : KeyMap String Claim}
    {pods : List Pod}, readPods store ns cluster count start claims = .ok (pods, claims') →
      ∀ {name : String}, name ∈ claims'.keys ↔
        name ∈ claims.keys ∨ ∃ pod ∈ pods, pod.RefersTo name
  | 0, start, claims, claims', pods, h, name => by
    obtain ⟨rfl, rfl⟩ := Prod.mk.inj (Except.ok.inj h)
    simp
  | count + 1, start, claims, claims', pods, h, name => by
    obtain ⟨⟨pod, spec⟩, hpod, h⟩ := Outcome.bind_eq_ok.mp h
    obtain ⟨claims₁, hclaims, h⟩ := Outcome.bind_eq_ok.mp h
    obtain ⟨⟨pods₁, claims₂⟩, hpods, h⟩ := Outcome.bind_eq_ok.mp h
    obtain ⟨rfl, rfl⟩ := Prod.mk.inj (Outcome.pure_eq_ok.mp h)
    obtain ⟨-, hspec, -⟩ := readPod_eq_ok.mp hpod
    rw [mem_keys_of_readPods hpods, mem_keys_of_readClaims hclaims, ← Pod.refersTo_iff hspec,
      or_assoc, List.exists_mem_cons_iff]

/-- An inventory in which nothing is missing that observing looks for. -/
structure Complete (inventory : Inventory) (source : Source) (cluster : String) : Prop where
  pods_pos : 0 < inventory.pods.length
  /-- Under the operator there are as many CrdbNodes as pods. -/
  crdbNodes : source = .crdbNode → ∃ nodes, inventory.controller = .crdbNodes nodes
    ∧ nodes.length = inventory.pods.length
  /-- The pod at a place has the name with that number, and it has a host. -/
  pod : ∀ {i : Nat} {pod : Pod}, inventory.pods[i]? = some pod →
    pod.metadata.name = some (Names.nodeName cluster i)
      ∧ ∃ spec host, pod.spec = some spec ∧ spec.nodeName = some host ∧ host ≠ ""
  /-- The claims are those that a volume of a pod refers to. -/
  claims : ∀ name, name ∈ inventory.claims.keys ↔ ∃ pod ∈ inventory.pods, pod.RefersTo name

theorem complete_of_read {source : Source} {inventory : Inventory}
    (h : read store source ns cluster = .ok inventory) : inventory.Complete source cluster where
  pods_pos := List.length_pos_iff.mpr (isRead h).pods_ne_nil
  crdbNodes hsource := by
    subst hsource
    obtain ⟨nodes, hnodes, hcount, -⟩ := (isRead h).crdbNodes
    exact ⟨nodes, hnodes, hcount⟩
  pod {i pod} hi := by
    obtain ⟨spec, hpod⟩ := (isRead h).pod hi
    obtain ⟨-, hspec, hhost⟩ := readPod_eq_ok.mp hpod
    have hname := (isRead h).nameText hi
    refine ⟨?_, spec, ?_⟩
    · cases hgiven : pod.metadata.name with
      | none =>
        rw [ObjectMeta.nameText, hgiven] at hname
        exact absurd hname.symm (Names.nodeName_ne_empty cluster i)
      | some name => rw [← hname, ObjectMeta.nameText, hgiven, Option.getD_some]
    · cases hgiven : spec.nodeName with
      | none =>
        rw [hgiven] at hhost
        exact absurd rfl hhost
      | some host =>
        rw [hgiven] at hhost
        exact ⟨host, hspec, rfl, hhost⟩
  claims name := by
    obtain ⟨⟨controller, count⟩, -, h⟩ := Outcome.bind_eq_ok.mp h
    obtain ⟨-, h⟩ := Outcome.check_eq_ok.mp h
    obtain ⟨⟨pods, claims⟩, hpods, h⟩ := Outcome.bind_eq_ok.mp h
    obtain rfl := Outcome.pure_eq_ok.mp h
    rw [mem_keys_of_readPods hpods]
    simp [KeyMap.keys, KeyMap.empty]

end Inventory

/-! ## Observing -/

namespace Storage

theorem avoids_checkOwner (place : Place) (name : String) (claim : Claim) :
    (checkOwner place name claim).Avoids Failure.IsGap := by
  unfold checkOwner
  split
  · split
    · split
      · exact .ok _
      · exact .error id
    · exact .ok _
  · exact .error id

theorem avoids_failover (index : Nat) (pod : String) (mode : WalFailover)
    (descriptors : List StorageDescriptor) :
    (failover index pod mode descriptors).Avoids Failure.IsGap := by
  unfold failover
  split
  · exact .ok _
  · refine .bind (.required _ id) fun found _ => ?_
    split
    · exact .ok _
    · exact .error id

/-- Where a pod has a host and the claims of its volumes have been read, the storage of its node
misses nothing that has to be read. -/
theorem avoids_resolve {index : Nat} {pod : Pod} {spec : PodSpec} {host : String}
    {claims : KeyMap String Claim} (hspec : pod.spec = some spec)
    (hhost : spec.nodeName = some host)
    (hclaims : ∀ name, pod.RefersTo name → name ∈ claims.keys) (container : Container)
    (templates : List ClaimTemplate) :
    (resolve index pod container templates claims).Avoids Failure.IsGap := by
  unfold resolve
  rw [hspec]
  refine .bind (.ok _) fun spec' hspec' => ?_
  obtain rfl := Except.ok.inj hspec'
  rw [hhost]
  refine .bind (.ok _) fun host' _ => .mapM fun template _ => ?_
  refine .bind (.required _ id) fun claimName hclaimName => ?_
  obtain ⟨claim, hclaim⟩ := KeyMap.mem_keys_iff.mp (hclaims claimName
    ((Pod.refersTo_iff hspec).mpr
      (PodSpec.mem_claimNames (Outcome.required_eq_ok.mp hclaimName))))
  rw [hclaim]
  refine .bind (.ok _) fun claim' _ => .bind (avoids_checkOwner _ _ _) fun _ _ => ?_
  exact .bind (.required _ id) fun size _ => .bind (.required _ id) fun path _ => .ok _

end Storage

theorem avoids_declared (inventory : Inventory) (pod : Pod) :
    (declared inventory pod).Avoids Failure.IsGap := by
  unfold declared
  split
  · exact .bind (.required _ (by simp [Failure.IsGap])) fun spec _ =>
      .bind (.required _ (by simp [Failure.IsGap])) fun podSpec _ =>
        .bind (.required _ (by simp [Failure.IsGap])) fun container _ => .ok _
  · exact .ok _

namespace Inventory.Complete

variable {inventory : Inventory} {source : Source} {cluster : String}

theorem avoids_observeNode (h : inventory.Complete source cluster) {i : Nat} {pod : Pod}
    (hpod : inventory.pods[i]? = some pod) (container : String) (index : Nat)
    (templates : List ClaimTemplate) :
    (observeNode container inventory.claims index pod templates).Avoids Failure.IsGap := by
  obtain ⟨-, spec, host, hspec, hhost, -⟩ := h.pod hpod
  have hclaims (name : String) (hname : pod.RefersTo name) : name ∈ inventory.claims.keys :=
    (h.claims name).mpr ⟨pod, List.mem_of_getElem? hpod, hname⟩
  refine .bind (.required _ (by simp [Failure.IsGap])) fun container _ => ?_
  refine .bind (StartCommand.avoids_parse _) fun flags _ => ?_
  refine .bind (WalFailover.avoids_classify _ _) fun mode _ => ?_
  refine .bind (Storage.avoids_resolve hspec hhost hclaims _ _) fun storage _ => ?_
  exact .bind (Storage.avoids_failover _ _ _ _) fun failover _ => .ok _

/-- A complete inventory is not refused for a gap. -/
theorem avoids_observe (h : inventory.Complete source cluster) :
    (observe inventory).Avoids Failure.IsGap := by
  unfold observe
  split
  · rename_i hpods
    exact absurd hpods (List.length_pos_iff.mp h.pods_pos)
  · rename_i pod pods hpods
    refine .bind (avoids_declared _ _) fun d _ => ?_
    refine .bind (h.avoids_observeNode (i := 0) (by rw [hpods]; rfl) _ _ _) fun first _ => ?_
    refine .bind (.mapM ?_) fun others _ => .ok _
    rintro ⟨pod', index⟩ hpod'
    have hmem : pod' ∈ inventory.pods := by
      rw [hpods]
      exact List.mem_cons_of_mem _ (List.fst_mem_of_mem_zipIdx hpod')
    obtain ⟨i, hi⟩ := List.mem_iff_getElem?.mp hmem
    exact h.avoids_observeNode hi _ _ _

end Inventory.Complete

/-- Nothing comes of CrdbNodes behind the one of the last pod. -/
theorem observe_append {inventory : Inventory} {nodes : List CrdbNode}
    (hnodes : inventory.controller = .crdbNodes nodes)
    (hcount : nodes.length = inventory.pods.length) (more : List CrdbNode) :
    observe { inventory with controller := .crdbNodes (nodes ++ more) } = observe inventory := by
  have hget {i : Nat} (hi : i < inventory.pods.length) : (nodes ++ more)[i]? = nodes[i]? :=
    List.getElem?_append_left (hcount ▸ hi)
  unfold observe
  dsimp only
  cases hpods : inventory.pods with
  | nil => rfl
  | cons pod pods =>
    rw [hpods] at hget
    simp only [declared, hnodes, pure_bind, hget (Nat.zero_lt_succ _)]
    refine Outcome.bind_congr fun first _ => ?_
    congr 1
    refine Outcome.mapM_congr fun numbered hmem => ?_
    rw [hget (List.snd_lt_of_mem_zipIdx hmem)]

/-! ## Synthesis -/

namespace CrdbNodes

variable {o : ClusterObservation} {trust : TrustMap} {target : Target}

theorem avoids_dataStores (n : NodeObservation) : (dataStores n).Avoids Failure.IsGap := by
  refine .bind (.mapM fun store _ => .bind (.required _ id) fun path _ => .ok _)
    fun explicit _ => ?_
  split
  · exact .ok _
  · exact .error id

/-- A cluster has a first node, and so there is a CrdbNode that stands for it. -/
theorem avoids_files : (CrdbNodes.files o trust target).Avoids Failure.IsGap := by
  refine .bind (.mapM fun n _ => .bind (avoids_dataStores n) fun stores _ => .ok _)
    fun built hbuilt => .bind (.bind ?_ fun first _ => .bind (.required _ id) fun code _ => .ok _)
      fun chart _ => .ok _
  obtain ⟨first, others, -, -, rfl⟩ := List.forall₂_cons_left_iff.mp (Outcome.mapM_eq_ok.mp hbuilt)
  exact .ok _

end CrdbNodes

namespace LegacyChart

variable {o : ClusterObservation} {trust : TrustMap} {target : Target}

theorem avoids_sharedOptions (index : Nat) :
    ∀ options, (sharedOptions index options).Avoids Failure.IsGap
  | [] => .ok _
  | [_] => .ok _
  | _ :: options :: rest => by
    unfold sharedOptions
    split
    · exact avoids_sharedOptions index (options :: rest)
    · exact .error id

theorem avoids_putStoreField (index : Nat) (fields : Entries) (option : String) :
    (putStoreField index fields option).Avoids Failure.IsGap := by
  unfold putStoreField
  split
  split
  · exact .ok _
  · exact .error id

theorem avoids_storeValues (n : NodeObservation) : (storeValues n).Avoids Failure.IsGap := by
  refine .bind (avoids_sharedOptions _ _) fun options _ =>
    .bind (.foldlM (fun fields option _ => avoids_putStoreField _ fields option) _)
      fun fields _ => ?_
  dsimp only
  split <;> exact .ok _

theorem avoids_claimsFile (n : NodeObservation) : (claimsFile o n).Avoids Failure.IsGap := by
  refine .bind (.mapM fun d _ => ?_) fun claims _ => .ok _
  unfold boundClaim
  dsimp only
  split
  · exact .ok _
  · exact .error id

theorem avoids_files : (LegacyChart.files o trust target).Avoids Failure.IsGap := by
  refine .bind (.forM fun n _ => ?_) fun _ _ => .bind (.mapM fun n _ => avoids_claimsFile n)
    fun claims _ => .bind (.bind (.bind (avoids_storeValues _) fun stores _ => .ok _) fun conf _ =>
      .ok _) fun chart _ => .ok _
  unfold checkUniform
  split
  · exact .ok _
  · exact .error id

end LegacyChart

theorem avoids_synthesize (direction : Direction) (o : ClusterObservation) (trust : TrustMap)
    (target : Target) : (synthesize direction o trust target).Avoids Failure.IsGap := by
  unfold synthesize
  split
  · cases direction with
    | toCrdbNodes => exact CrdbNodes.avoids_files
    | toStatefulSet => exact LegacyChart.avoids_files
  · exact .error id

/-! ## Clusters that were read -/

/-- A cluster that was read has a pod for every node, a host for every pod and every claim that a
volume refers to. Observing it looks at none of the controllers behind the last pod and misses
nothing; what it comes to has a node for each pod, in their order, from which files can be made in
either direction. -/
theorem read_complete {store : ObjectStore} {source : Source} {ns cluster : String}
    {inventory : Inventory} (h : Inventory.read store source ns cluster = .ok inventory) :
    inventory.Complete source cluster
      ∧ (∀ nodes more, inventory.controller = .crdbNodes nodes →
        observe { inventory with controller := .crdbNodes (nodes ++ more) } = observe inventory)
      ∧ (observe inventory).Avoids Failure.IsGap
      ∧ ∀ o, observe inventory = .ok o →
        o.nodes.length = inventory.pods.length ∧ o.nodes[0]? = some o.first
          ∧ (∀ i (n : NodeObservation), o.nodes[i]? = some n → n.index = i)
          ∧ ∀ direction trust target,
            (synthesize direction o trust target).Avoids Failure.IsGap := by
  have hcomplete := Inventory.complete_of_read h
  refine ⟨hcomplete, fun nodes more hnodes => ?_, hcomplete.avoids_observe, fun o hobserve => ?_⟩
  · cases source with
    | statefulSet =>
      obtain ⟨s, hs, -⟩ := (Inventory.isRead h).statefulSet
      rw [hs] at hnodes
      cases hnodes
    | crdbNode =>
      obtain ⟨nodes', hnodes', hcount⟩ := hcomplete.crdbNodes rfl
      obtain rfl := Controller.crdbNodes.inj (hnodes'.symm.trans hnodes)
      exact observe_append hnodes hcount more
  · obtain ⟨d, -, -, hnodes⟩ := nodes_of_observe hobserve
    obtain ⟨pod, pods, d', first, others, -, -, hall, rfl⟩ := observe_eq_ok.mp hobserve
    refine ⟨?_, rfl, fun i n hn => ?_, fun direction trust target => avoids_synthesize _ _ _ _⟩
    · have hlength := hall.length_eq
      rw [List.length_zipIdx] at hlength
      exact hlength.symm
    · obtain ⟨pod', -, hnode⟩ := hnodes hn
      obtain ⟨-, -, -, -, -, -, hindex, -⟩ := observeNode_eq_ok.mp hnode
      exact hindex

/-- The small cluster under the operator is read and observed, and misses nothing. -/
theorem smallCluster_complete :
    ∃ inventory o, Inventory.read (SmallCluster.operatorStore Names.claimName
        SmallCluster.storeOnly SmallCluster.storeOnly) .crdbNode "n" "c-1" = .ok inventory
      ∧ inventory.Complete .crdbNode "c-1" ∧ observe inventory = .ok o
      ∧ o.nodes.length = inventory.pods.length := by
  obtain ⟨inventory, o, -, hread, -, hobserve, -⟩ := SmallCluster.exists_observed Names.claimName
    SmallCluster.storeOnly SmallCluster.storeOnly Except.ok (by decide +kernel)
  obtain ⟨hcomplete, -, -, hobserved⟩ := read_complete hread
  exact ⟨inventory, o, hread, hcomplete, hobserve, (hobserved o hobserve).1⟩

end Handover
