import Handover.ObjectStore
import Handover.Proofs.Normality
import Handover.Proofs.Outcome
import Mathlib.Data.List.Induction
import Mathlib.Data.List.Pairwise
import Mathlib.Data.List.Perm.Basic

/-!
# Loading a dump

A dump is a sequence of documents in which lists stand for their items, at any depth. Loading opens
the lists as it meets them; `flatAll` is the sequence of documents of single objects that it meets,
and loading comes to the same on a dump and on that sequence (`addAll_eq_foldlM`). What is found in
the store under a key is the last object of its kind there (`get?_foldl_put`), so where no two
objects have the same kind and key their order does not matter.
-/

namespace Handover

open Kubernetes Yaml

/-! ## Kinds -/

/-- The kinds of objects that a store holds. -/
inductive Kind where
  | statefulSet
  | crdbNode
  | pod
  | claim
  | secret
  | configMap
  | service
  deriving DecidableEq, Repr

namespace Kind

/-- The name of a kind in documents. -/
def name : Kind → String
  | statefulSet => "StatefulSet"
  | crdbNode => "CrdbNode"
  | pod => "Pod"
  | claim => "PersistentVolumeClaim"
  | secret => "Secret"
  | configMap => "ConfigMap"
  | service => "Service"

/-- The objects of a kind. -/
def Object : Kind → Type
  | statefulSet => StatefulSet
  | crdbNode => CrdbNode
  | pod => Pod
  | claim => Claim
  | secret => Secret
  | configMap => ConfigMap
  | service => Service

def codec : (k : Kind) → Codec k.Object
  | statefulSet => StatefulSet.codec
  | crdbNode => CrdbNode.codec
  | pod => Pod.codec
  | claim => Claim.codec
  | secret => Secret.codec
  | configMap => ConfigMap.codec
  | service => Service.codec

instance : (k : Kind) → HasMetadata k.Object
  | statefulSet => inferInstanceAs (HasMetadata StatefulSet)
  | crdbNode => inferInstanceAs (HasMetadata CrdbNode)
  | pod => inferInstanceAs (HasMetadata Pod)
  | claim => inferInstanceAs (HasMetadata Claim)
  | secret => inferInstanceAs (HasMetadata Secret)
  | configMap => inferInstanceAs (HasMetadata ConfigMap)
  | service => inferInstanceAs (HasMetadata Service)

/-- The kind of a name, if the library knows it. -/
def ofName? : String → Option Kind
  | "StatefulSet" => some statefulSet
  | "CrdbNode" => some crdbNode
  | "Pod" => some pod
  | "PersistentVolumeClaim" => some claim
  | "Secret" => some secret
  | "ConfigMap" => some configMap
  | "Service" => some service
  | _ => none

@[simp] theorem ofName?_name (k : Kind) : ofName? k.name = some k := by
  cases k <;> rfl

theorem ofName?_eq_some {s : String} {k : Kind} : ofName? s = some k ↔ s = k.name := by
  constructor
  · intro h
    unfold ofName? at h
    split at h <;> cases h <;> rfl
  · rintro rfl
    exact ofName?_name k

theorem name_injective {k k' : Kind} (h : k.name = k'.name) : k = k' := by
  rw [← Option.some.injEq, ← ofName?_name k, h, ofName?_name]

/-- A list is not an object of a kind. -/
@[simp] theorem ofName?_list : ofName? "List" = none := rfl

/-- Reading an object takes no notice of a tag. -/
theorem read_tagged (k : Kind) (tag : String) (v : Value) :
    k.codec.read (.tagged tag v) = k.codec.read v := by
  cases k <;> rfl

end Kind

namespace ObjectStore

/-- The objects of a kind. -/
def objects (s : ObjectStore) : (k : Kind) → Objects k.Object
  | .statefulSet => s.statefulSets
  | .crdbNode => s.crdbNodes
  | .pod => s.pods
  | .claim => s.claims
  | .secret => s.secrets
  | .configMap => s.configMaps
  | .service => s.services

/-- The store with one more object, over the one of its kind and key. -/
def put (s : ObjectStore) (o : (k : Kind) × k.Object) : ObjectStore :=
  match o with
  | ⟨.statefulSet, o⟩ => { s with statefulSets := s.statefulSets.put o }
  | ⟨.crdbNode, o⟩ => { s with crdbNodes := s.crdbNodes.put o }
  | ⟨.pod, o⟩ => { s with pods := s.pods.put o }
  | ⟨.claim, o⟩ => { s with claims := s.claims.put o }
  | ⟨.secret, o⟩ => { s with secrets := s.secrets.put o }
  | ⟨.configMap, o⟩ => { s with configMaps := s.configMaps.put o }
  | ⟨.service, o⟩ => { s with services := s.services.put o }

theorem objects_put_self (s : ObjectStore) (k : Kind) (o : k.Object) :
    (s.put ⟨k, o⟩).objects k = (s.objects k).put o := by
  cases k <;> rfl

theorem objects_put_of_ne (s : ObjectStore) {k k' : Kind} (h : k' ≠ k) (o : k.Object) :
    (s.put ⟨k, o⟩).objects k' = s.objects k' := by
  cases k <;> cases k' <;> first | rfl | exact absurd rfl h

theorem rbac_put (s : ObjectStore) (o : (k : Kind) × k.Object) : (s.put o).rbac = s.rbac := by
  obtain ⟨k, o⟩ := o
  cases k <;> rfl

/-- Adding a document reads the object of its kind and puts it in its place. -/
theorem addDocument_eq (s : ObjectStore) (v : Value) :
    s.addDocument v =
      match Kind.ofName? (kindOf v) with
      | some k => do return s.put ⟨k, ← decode k.codec v⟩
      | none => .ok s := by
  cases h : Kind.ofName? (kindOf v) with
  | some k =>
    have hk := Kind.ofName?_eq_some.mp h
    cases k <;> rw [addDocument, hk] <;> rfl
  | none =>
    unfold addDocument
    split
    case h_8 => rfl
    all_goals
      rename_i hkind
      rw [hkind] at h
      cases h

/-! ## The flat sequence -/

/-- The items of a list document, none if it has no sequence of them. -/
def listItems (v : Value) : List Value := ((v.field? "items").bind (·.asItems?)).getD []

theorem sizeOf_untagged_le (v : Value) : sizeOf v.untagged ≤ sizeOf v := by
  induction v using Value.untagged.induct with
  | case1 tag inner ih =>
    simp only [Value.untagged, Value.tagged.sizeOf_spec]
    omega
  | case2 v h => exact Nat.le_of_eq (congrArg sizeOf (Value.untagged.eq_2 v h))

theorem sizeOf_lt_of_mem_listItems {v item : Value} (h : item ∈ listItems v) :
    sizeOf item < sizeOf v := by
  rw [listItems, Value.field?] at h
  split at h
  · rename_i entries hentries
    cases hitems : Value.lookup "items" entries with
    | none => simp [hitems] at h
    | some sequence =>
      have hsequence : sizeOf sequence < sizeOf v := by
        have hmem := List.sizeOf_lt_of_mem (Value.mem_of_lookup hitems)
        have hle := sizeOf_untagged_le v
        simp only [hentries, Value.map.sizeOf_spec, Prod.mk.sizeOf_spec] at hmem hle
        omega
      rw [hitems, Option.bind_some, Value.asItems?] at h
      split at h
      · rename_i items hitems
        have hmem : sizeOf item < sizeOf items := List.sizeOf_lt_of_mem h
        have hle := sizeOf_untagged_le sequence
        simp only [hitems, Value.seq.sizeOf_spec] at hle
        omega
      · cases h
  · cases h

/-- The documents of single objects that a document stands for, in order: the items of a list at
any depth, the document itself if its kind is known, and none otherwise. -/
def flat (v : Value) : List Value :=
  if kindOf v = "List" then (listItems v).attach.flatMap fun item => flat item.1
  else if (Kind.ofName? (kindOf v)).isSome then [v]
  else []
termination_by sizeOf v
decreasing_by exact sizeOf_lt_of_mem_listItems item.2

/-- The flat sequence that some documents stand for. -/
def flatAll (documents : List Value) : List Value := documents.flatMap flat

theorem flat_list {v : Value} (h : kindOf v = "List") : flat v = flatAll (listItems v) := by
  rw [flat, if_pos h, flatAll, List.flatMap_subtype]
  · rw [List.unattach_attach]
  · exact fun _ _ => rfl

theorem flat_object {v : Value} {k : Kind} (h : kindOf v = k.name) : flat v = [v] := by
  have hsome : (Kind.ofName? (kindOf v)).isSome := by rw [h, Kind.ofName?_name]; rfl
  have hlist : kindOf v ≠ "List" := fun hlist => by simp [hlist] at hsome
  rw [flat, if_neg hlist, if_pos hsome]

theorem flat_unknown {v : Value} (hlist : kindOf v ≠ "List")
    (h : Kind.ofName? (kindOf v) = none) : flat v = [] := by
  rw [flat, if_neg hlist, h]
  rfl

/-- The flat sequence of a document that is not a list is the document or nothing. -/
theorem known_of_mem_flat {v w : Value} (h : w ∈ flat v) : ∃ k : Kind, kindOf w = k.name := by
  induction v using flat.induct with
  | case1 v hlist ih =>
    rw [flat_list hlist] at h
    obtain ⟨item, hitem, hw⟩ := List.mem_flatMap.mp h
    exact ih ⟨item, hitem⟩ hw
  | case2 v hlist hsome =>
    obtain ⟨k, hk⟩ := Option.isSome_iff_exists.mp hsome
    rw [flat, if_neg hlist, if_pos hsome] at h
    obtain rfl := List.mem_singleton.mp h
    exact ⟨k, Kind.ofName?_eq_some.mp hk⟩
  | case3 v hlist hnone =>
    rw [flat, if_neg hlist, if_neg hnone] at h
    cases h

/-- Every document of the flat sequence describes an object of a known kind. -/
theorem known_of_mem_flatAll {documents : List Value} {v : Value} (h : v ∈ flatAll documents) :
    ∃ k : Kind, kindOf v = k.name := by
  obtain ⟨document, -, h⟩ := List.mem_flatMap.mp h
  exact known_of_mem_flat h

/-- Documents of known kinds are flat already. -/
theorem flatAll_of_known {documents : List Value}
    (h : ∀ v ∈ documents, ∃ k : Kind, kindOf v = k.name) : flatAll documents = documents := by
  induction documents with
  | nil => rfl
  | cons v documents ih =>
    obtain ⟨⟨k, hk⟩, h⟩ := List.forall_mem_cons.mp h
    rw [flatAll, List.flatMap_cons, flat_object hk]
    exact congrArg (v :: ·) (ih h)

theorem flatAll_flatAll (documents : List Value) :
    flatAll (flatAll documents) = flatAll documents :=
  flatAll_of_known fun _ => known_of_mem_flatAll

/-! ## Loading is loading the flat sequence -/

theorem addDocument_tagged (s : ObjectStore) (tag : String) (v : Value) :
    s.addDocument (.tagged tag v) = s.addDocument v := by
  have hkind : kindOf (.tagged tag v) = kindOf v := rfl
  rw [addDocument_eq, addDocument_eq, hkind]
  simp only [decode, Kind.read_tagged]

/-- A tag on a document makes no difference to what is added. -/
theorem foldlM_flat_tagged (s : ObjectStore) (tag : String) (v : Value) :
    (flat (.tagged tag v)).foldlM addDocument s = (flat v).foldlM addDocument s := by
  have hkind : kindOf (.tagged tag v) = kindOf v := rfl
  by_cases hlist : kindOf v = "List"
  · rw [flat_list hlist, flat_list (hkind.trans hlist)]
    rfl
  · cases h : Kind.ofName? (kindOf v) with
    | some k =>
      have hk := Kind.ofName?_eq_some.mp h
      rw [flat_object hk, flat_object (hkind.trans hk)]
      simp only [List.foldlM_cons, addDocument_tagged]
    | none => rw [flat_unknown hlist h, flat_unknown (hkind ▸ hlist) (hkind ▸ h)]

theorem foldlM_flat_object {v : Value} (hlist : kindOf v ≠ "List") (s : ObjectStore) :
    (flat v).foldlM addDocument s = s.addDocument v := by
  cases h : Kind.ofName? (kindOf v) with
  | some k =>
    rw [flat_object (Kind.ofName?_eq_some.mp h), List.foldlM_cons]
    simp
  | none =>
    rw [flat_unknown hlist h, addDocument_eq, h]
    rfl

mutual

theorem addValue_eq_foldlM : ∀ (v : Value) (s : ObjectStore),
    addValue s v = (flat v).foldlM addDocument s
  | .tagged tag inner, s => by
    rw [foldlM_flat_tagged, ← addValue_eq_foldlM inner s, addValue]
  | .map entries, s => by
    rw [addValue]
    split
    · rename_i hlist
      rw [flat_list hlist]
      exact addItems_eq_foldlM entries s
    · rename_i hlist
      exact (foldlM_flat_object hlist s).symm
  | .null, s | .bool _, s | .number _, s | .text _, s | .seq _, s => by
    symm
    apply foldlM_flat_object
    simp [kindOf, Value.field?, Value.untagged]

theorem addItems_eq_foldlM : ∀ (entries : List (Value × Value)) (s : ObjectStore),
    addItems s entries = (flatAll (listItems (.map entries))).foldlM addDocument s
  | [], _ => rfl
  | (key, v) :: entries, s => by
    rw [addItems]
    split
    · rename_i hkey
      have hitems : listItems (.map ((key, v) :: entries)) = v.asItems?.getD [] := by
        simp [listItems, Value.field?, Value.untagged, Value.lookup, hkey]
      rw [hitems]
      exact addSequence_eq_foldlM v s
    · rename_i hkey
      have hitems : listItems (.map ((key, v) :: entries)) = listItems (.map entries) := by
        simp [listItems, Value.field?, Value.untagged, Value.lookup, hkey]
      rw [hitems]
      exact addItems_eq_foldlM entries s

theorem addSequence_eq_foldlM : ∀ (v : Value) (s : ObjectStore),
    addSequence s v = (flatAll (v.asItems?.getD [])).foldlM addDocument s
  | .tagged _ inner, s => addSequence_eq_foldlM inner s
  | .seq items, s => addAll_eq_foldlM items s
  | .null, _ | .bool _, _ | .number _, _ | .text _, _ | .map _, _ => rfl

/-- Adding documents adds the flat sequence of them, object by object. -/
theorem addAll_eq_foldlM : ∀ (vs : List Value) (s : ObjectStore),
    addAll s vs = (flatAll vs).foldlM addDocument s
  | [], _ => rfl
  | v :: vs, s => by
    rw [addAll, addValue_eq_foldlM v s, flatAll, List.flatMap_cons, List.foldlM_append]
    exact Outcome.bind_congr fun s' _ => addAll_eq_foldlM vs s'

end

/-- Loading documents loads their flat sequence. -/
theorem ofDocuments_eq_foldlM (documents : List Value) :
    ofDocuments documents = (flatAll documents).foldlM addDocument {} :=
  addAll_eq_foldlM documents {}

/-! ## What was put last is found -/

/-- The kind and the key of an object. -/
def place (o : (k : Kind) × k.Object) : Kind × ObjectKey := (o.1, .of o.2)

theorem get?_put_self (s : ObjectStore) {k : Kind} (o : k.Object) :
    ((s.put ⟨k, o⟩).objects k).get? (.of o) = some o := by
  rw [objects_put_self]
  exact KeyMap.get?_insert_self _ _ _

theorem get?_put_of_ne (s : ObjectStore) {k : Kind} {key : ObjectKey} {x : (k : Kind) × k.Object}
    (h : place x ≠ (k, key)) : ((s.put x).objects k).get? key = (s.objects k).get? key := by
  obtain ⟨k', o⟩ := x
  by_cases hk : k = k'
  · subst hk
    have hkey : key ≠ .of o := fun hkey => h (by rw [place, hkey])
    rw [objects_put_self]
    exact KeyMap.get?_insert_of_ne hkey _ _
  · rw [objects_put_of_ne s hk]

/-- A key finds the last object that was put under it. -/
theorem get?_foldl_put (objects : List ((k : Kind) × k.Object)) (k : Kind) (key : ObjectKey)
    (o : k.Object) :
    ((objects.foldl put {}).objects k).get? key = some o ↔
      (objects.filter fun x => place x = (k, key)).getLast? = some ⟨k, o⟩ := by
  induction objects using List.reverseRecOn with
  | nil =>
    have hnone : (({} : ObjectStore).objects k).get? key = none := by cases k <;> rfl
    simp [hnone]
  | append_singleton objects x ih =>
    rw [List.foldl_append, List.foldl_cons, List.foldl_nil, List.filter_append]
    by_cases hx : place x = (k, key)
    · rw [List.filter_singleton, decide_eq_true hx, cond_true, List.getLast?_concat]
      obtain ⟨k', x⟩ := x
      obtain ⟨rfl, rfl⟩ := Prod.mk.inj hx
      rw [get?_put_self]
      simp
    · rw [List.filter_singleton, decide_eq_false hx, cond_false, List.append_nil,
        get?_put_of_ne _ hx, ih]

theorem rbac_foldl_put (objects : List ((k : Kind) × k.Object)) (s : ObjectStore) :
    (objects.foldl put s).rbac = s.rbac := by
  induction objects generalizing s with
  | nil => rfl
  | cons o objects ih => rw [List.foldl_cons, ih, rbac_put]

/-! ## Objects in different places -/

/-- Objects of a kind are what their keys find. -/
theorem Objects.ext_get? {α : Type} [HasMetadata α] {a b : Objects α}
    (h : ∀ key, a.get? key = b.get? key) : a = b := by
  have hmap : a.map = b.map := KeyMap.ext_get? h
  cases a
  cases b
  cases hmap
  rfl

/-- A store is the objects that it finds and the permissions that it has recorded. -/
theorem ext_objects {s t : ObjectStore}
    (h : ∀ k key, (s.objects k).get? key = (t.objects k).get? key) (hrbac : s.rbac = t.rbac) :
    s = t := by
  have hobjects (k : Kind) : s.objects k = t.objects k := Objects.ext_get? (h k)
  cases s
  cases t
  simp only [ObjectStore.mk.injEq]
  exact ⟨hobjects .statefulSet, hobjects .crdbNode, hobjects .pod, hobjects .claim,
    hobjects .secret, hobjects .service, hobjects .configMap, hrbac⟩

/-- Objects that are put in different places are put there in any order. -/
theorem put_comm (s : ObjectStore) {x y : (k : Kind) × k.Object} (h : place x ≠ place y) :
    (s.put x).put y = (s.put y).put x := by
  refine ext_objects (fun k key => ?_) (by rw [rbac_put, rbac_put, rbac_put, rbac_put])
  by_cases hx : place x = (k, key)
  · have hy : place y ≠ (k, key) := hx ▸ h.symm
    obtain ⟨k', x⟩ := x
    obtain ⟨rfl, rfl⟩ := Prod.mk.inj hx
    rw [get?_put_of_ne _ hy, get?_put_self, get?_put_self]
  · by_cases hy : place y = (k, key)
    · obtain ⟨k', y⟩ := y
      obtain ⟨rfl, rfl⟩ := Prod.mk.inj hy
      rw [get?_put_of_ne _ hx, get?_put_self, get?_put_self]
    · rw [get?_put_of_ne _ hx, get?_put_of_ne _ hy, get?_put_of_ne _ hy, get?_put_of_ne _ hx]

/-- Objects in different places make the same store in any order. -/
theorem foldl_put_perm {xs ys : List ((k : Kind) × k.Object)} (hperm : xs.Perm ys)
    (h : xs.Pairwise fun x y => place x ≠ place y) (s : ObjectStore) :
    xs.foldl put s = ys.foldl put s := by
  have hsymm : Std.Symm fun x y : (k : Kind) × k.Object => place x ≠ place y :=
    ⟨fun _ _ hne => hne.symm⟩
  refine hperm.foldl_eq' (fun x hx y hy s => ?_) s
  by_cases hxy : x = y
  · rw [hxy]
  · exact put_comm s (h.forall hx hy hxy)

/-! ## Permutations -/

/-- A document describes an object: it has the name of its kind and reads as it. -/
def ReadsAs (v : Value) (o : (k : Kind) × k.Object) : Prop :=
  kindOf v = o.1.name ∧ decode o.1.codec v = .ok o.2

/-- No two of some documents describe objects of one kind, namespace and name. -/
def InDifferentPlaces (documents : List Value) : Prop :=
  documents.Pairwise fun v w => ∀ x y, ReadsAs v x → ReadsAs w y → place x ≠ place y

theorem addDocument_eq_ok {s s' : ObjectStore} {v : Value} (h : ∃ k : Kind, kindOf v = k.name) :
    s.addDocument v = .ok s' ↔ ∃ o, ReadsAs v o ∧ s' = s.put o := by
  obtain ⟨k, hk⟩ := h
  rw [addDocument_eq, hk, Kind.ofName?_name]
  simp only [Outcome.bind_eq_ok, Outcome.pure_eq_ok]
  constructor
  · rintro ⟨o, ho, rfl⟩
    exact ⟨⟨k, o⟩, ⟨hk, ho⟩, rfl⟩
  · rintro ⟨⟨k', o⟩, ⟨hk', ho⟩, rfl⟩
    obtain rfl := Kind.name_injective (hk.symm.trans hk')
    exact ⟨o, ho, rfl⟩

/-- Adding documents of known kinds puts the objects that they describe. -/
theorem foldlM_addDocument_eq_ok {s s' : ObjectStore} {documents : List Value}
    (h : ∀ v ∈ documents, ∃ k : Kind, kindOf v = k.name) :
    documents.foldlM addDocument s = .ok s' ↔
      ∃ objects, List.Forall₂ ReadsAs documents objects ∧ s' = objects.foldl put s := by
  induction documents generalizing s with
  | nil =>
    rw [List.foldlM_nil, Outcome.pure_eq_ok]
    simp [List.forall₂_nil_left_iff, eq_comm]
  | cons v documents ih =>
    obtain ⟨hv, h⟩ := List.forall_mem_cons.mp h
    rw [List.foldlM_cons, Outcome.bind_eq_ok]
    simp only [addDocument_eq_ok hv, ih h]
    constructor
    · rintro ⟨-, ⟨o, ho, rfl⟩, objects, hobjects, rfl⟩
      exact ⟨o :: objects, .cons ho hobjects, rfl⟩
    · rintro ⟨_, _ | ⟨ho, hobjects⟩, rfl⟩
      exact ⟨_, ⟨_, ho, rfl⟩, _, hobjects, rfl⟩

/-- Documents load when each object of their flat sequence can be read, and the store is then the
objects put one after the other. -/
theorem ofDocuments_eq_ok {documents : List Value} {s : ObjectStore} :
    ofDocuments documents = .ok s ↔
      ∃ objects, List.Forall₂ ReadsAs (flatAll documents) objects ∧ s = objects.foldl put {} := by
  rw [ofDocuments_eq_foldlM]
  exact foldlM_addDocument_eq_ok fun _ => known_of_mem_flatAll

/-- Each object that documents describe is described by one of them. -/
theorem exists_readsAs {documents : List Value} {objects : List ((k : Kind) × k.Object)}
    (h : List.Forall₂ ReadsAs documents objects) {o : (k : Kind) × k.Object} (ho : o ∈ objects) :
    ∃ v ∈ documents, ReadsAs v o := by
  induction h with
  | nil => cases ho
  | cons hv _ ih =>
    rcases List.mem_cons.mp ho with rfl | ho
    · exact ⟨_, List.mem_cons_self, hv⟩
    · obtain ⟨v, hmem, hvo⟩ := ih ho
      exact ⟨v, List.mem_cons_of_mem _ hmem, hvo⟩

theorem pairwise_place {documents : List Value} {objects : List ((k : Kind) × k.Object)}
    (happart : InDifferentPlaces documents) (h : List.Forall₂ ReadsAs documents objects) :
    objects.Pairwise fun x y => place x ≠ place y := by
  induction h with
  | nil => exact .nil
  | cons hv hrest ih =>
    obtain ⟨hne, happart⟩ := List.pairwise_cons.mp happart
    refine List.pairwise_cons.mpr ⟨fun y hy => ?_, ih happart⟩
    obtain ⟨w, hw, hwy⟩ := exists_readsAs hrest hy
    exact hne w hw _ _ hv hwy

theorem InDifferentPlaces.perm {ds es : List Value} (h : InDifferentPlaces es)
    (hperm : es.Perm ds) : InDifferentPlaces ds :=
  hperm.pairwise h fun hne x y hx hy => (hne y x hy hx).symm

/-- What loads in one order loads in every order. -/
theorem loads_of_perm {ds es : List Value} (hperm : (flatAll ds).Perm (flatAll es))
    (h : ∃ s, ofDocuments es = .ok s) : ∃ s, ofDocuments ds = .ok s := by
  obtain ⟨_, hs⟩ := h
  obtain ⟨objects, hobjects, -⟩ := ofDocuments_eq_ok.mp hs
  obtain ⟨others, hothers, -⟩ := List.perm_comp_forall₂ hperm hobjects
  exact ⟨_, ofDocuments_eq_ok.mpr ⟨others, hothers, rfl⟩⟩

/-- Objects in different places load to the same store in every order. -/
theorem ofDocuments_of_perm {ds es : List Value} (hperm : (flatAll ds).Perm (flatAll es))
    (happart : InDifferentPlaces (flatAll es)) {s : ObjectStore} (h : ofDocuments es = .ok s) :
    ofDocuments ds = .ok s := by
  obtain ⟨objects, hobjects, rfl⟩ := ofDocuments_eq_ok.mp h
  obtain ⟨others, hothers, hothersPerm⟩ := List.perm_comp_forall₂ hperm hobjects
  exact ofDocuments_eq_ok.mpr
    ⟨others, hothers, foldl_put_perm hothersPerm.symm (pairwise_place happart hobjects) {}⟩

/-- A dump loads as its flat sequence does. What a loaded store finds under a key is the last object
of the kind there, and it has recorded no permissions. The flat sequence loads in any order if in
one, and to the same store if no two of its objects have the same kind, namespace and name. -/
theorem ofDocuments_flatAll (documents : List Value) :
    ofDocuments documents = ofDocuments (flatAll documents)
      ∧ (∀ s, ofDocuments documents = .ok s →
          s.rbac = [] ∧ ∃ objects, List.Forall₂ ReadsAs (flatAll documents) objects
            ∧ ∀ (k : Kind) (key : ObjectKey) (o : k.Object),
                (s.objects k).get? key = some o ↔
                  (objects.filter fun x => place x = (k, key)).getLast? = some ⟨k, o⟩)
      ∧ ∀ ds : List Value, ds.Perm (flatAll documents) →
          ((∃ s, ofDocuments ds = .ok s) ↔ ∃ s, ofDocuments documents = .ok s)
            ∧ (InDifferentPlaces (flatAll documents) →
                ∀ s, ofDocuments ds = .ok s ↔ ofDocuments documents = .ok s) := by
  refine ⟨?_, fun s hs => ?_, fun ds hperm => ?_⟩
  · rw [ofDocuments_eq_foldlM, ofDocuments_eq_foldlM, flatAll_flatAll]
  · obtain ⟨objects, hobjects, rfl⟩ := ofDocuments_eq_ok.mp hs
    exact ⟨rbac_foldl_put objects {}, objects, hobjects, get?_foldl_put objects⟩
  · have hflat : flatAll ds = ds :=
      flatAll_of_known fun v hv => known_of_mem_flatAll (hperm.mem_iff.mp hv)
    rw [← hflat] at hperm
    refine ⟨⟨loads_of_perm hperm.symm, loads_of_perm hperm⟩, fun happart s => ?_⟩
    exact ⟨ofDocuments_of_perm hperm.symm (happart.perm hperm.symm),
      ofDocuments_of_perm hperm happart⟩

/-- A ConfigMap that is nothing but its name. -/
def bareConfigMap (name : String) : Value := .record [
  ("kind", .text "ConfigMap"), ("metadata", .record [("name", .text name)])]

/-- A list of some documents. -/
def listOf (items : List Value) : Value := .record [
  ("kind", .text "List"), ("items", .seq items)]

/-- Two ConfigMaps at different depths, next to what loading leaves out. -/
def nestedDump : List Value := [
  listOf [bareConfigMap "a", .null, listOf [.record [("kind", .text "Node")], bareConfigMap "b"]],
  .null, .record [("kind", .text "List")]]

theorem readsAs_bareConfigMap {name : String} {o : (k : Kind) × k.Object}
    (h : ReadsAs (bareConfigMap name) o) :
    o = ⟨.configMap, { metadata := { name := some name } }⟩ := by
  obtain ⟨k, o⟩ := o
  obtain ⟨hkind, hread⟩ := h
  obtain rfl : Kind.configMap = k := Kind.name_injective hkind
  cases hread
  rfl

theorem flatAll_nestedDump : flatAll nestedDump = [bareConfigMap "a", bareConfigMap "b"] := by
  have hlist (items : List Value) : flat (listOf items) = flatAll items := flat_list rfl
  have hobject (name : String) : flat (bareConfigMap name) = [bareConfigMap name] :=
    flat_object (k := .configMap) rfl
  have hempty : flat (.record [("kind", .text "List")]) = [] := flat_list rfl
  have hnode : flat (.record [("kind", .text "Node")]) = [] := flat_unknown (by decide) rfl
  have hnull : flat .null = [] := flat_unknown (by decide) rfl
  simp [nestedDump, flatAll, hlist, hobject, hempty, hnode, hnull]

theorem nestedDump_flat :
    flatAll nestedDump = [bareConfigMap "a", bareConfigMap "b"]
      ∧ InDifferentPlaces (flatAll nestedDump)
      ∧ [bareConfigMap "b", bareConfigMap "a"].Perm (flatAll nestedDump)
      ∧ ofDocuments nestedDump = .ok ([
          ⟨.configMap, { metadata := { name := some "a" } }⟩,
          ⟨.configMap, { metadata := { name := some "b" } }⟩].foldl put {})
      ∧ ∀ s, ofDocuments [bareConfigMap "b", bareConfigMap "a"] = .ok s
          ↔ ofDocuments nestedDump = .ok s := by
  have hperm : [bareConfigMap "b", bareConfigMap "a"].Perm (flatAll nestedDump) := by
    rw [flatAll_nestedDump]
    exact .swap _ _ _
  have happart : InDifferentPlaces (flatAll nestedDump) := by
    rw [flatAll_nestedDump]
    refine List.pairwise_pair.mpr fun x y hx hy => ?_
    rw [readsAs_bareConfigMap hx, readsAs_bareConfigMap hy]
    decide
  exact ⟨flatAll_nestedDump, happart, hperm, by decide,
    ((ofDocuments_flatAll nestedDump).2.2 _ hperm).2 happart⟩

end ObjectStore

end Handover
