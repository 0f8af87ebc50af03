import Handover.Failure
import Handover.Kubernetes.Config
import Handover.Kubernetes.CrdbNode
import Handover.Kubernetes.Service
import Handover.Kubernetes.StatefulSet
import Handover.Names
import Handover.Yaml.Document

/-!
# The object store

The objects of a platform by kind, namespace and name, as a dump of the platform gives them. The
few writes of a run land in the store too, so that a later run sees them.
-/

namespace Handover

open Kubernetes Yaml

/-! ## Keys -/

/-- The namespace and the name of an object. -/
structure ObjectKey where
  ns : String
  name : String
  deriving DecidableEq, Repr, Inhabited

namespace ObjectKey

/-- By namespace, and within a namespace by name. -/
def order : ObjectKey → ObjectKey → Ordering :=
  compareLex (compareOn ObjectKey.ns) (compareOn ObjectKey.name)

instance : Ord ObjectKey := ⟨order⟩

instance : Std.TransOrd ObjectKey :=
  inferInstanceAs (Std.TransCmp (compareLex (compareOn ObjectKey.ns) (compareOn ObjectKey.name)))

instance : Std.LawfulEqOrd ObjectKey where
  compare_self {a} := by
    change order a a = .eq
    simp [order, compareLex, compareOn]
  eq_of_compare {a b} h := by
    change order a b = .eq at h
    simp only [order, compareLex, compareOn, Ordering.then_eq_eq,
      Std.LawfulEqOrd.compare_eq_iff_eq] at h
    cases a
    cases b
    simp_all

/-- The key of an object. Without a namespace it is in `default`. -/
def ofMeta (m : ObjectMeta) : ObjectKey := ⟨m.ns.getD "default", m.nameText⟩

end ObjectKey

/-! ## Objects of one kind -/

instance : HasMetadata StatefulSet := ⟨StatefulSet.metadata⟩
instance : HasMetadata CrdbNode := ⟨CrdbNode.metadata⟩
instance : HasMetadata Pod := ⟨Pod.metadata⟩
instance : HasMetadata Claim := ⟨Claim.metadata⟩
instance : HasMetadata Secret := ⟨Secret.metadata⟩
instance : HasMetadata Service := ⟨Service.metadata⟩
instance : HasMetadata ConfigMap := ⟨ConfigMap.metadata⟩

/-- The key under which an object is kept. -/
def ObjectKey.of {α : Type} [HasMetadata α] (a : α) : ObjectKey := .ofMeta (HasMetadata.metadata a)

/-- Objects of one kind, each under its own key. -/
structure Objects (α : Type) [HasMetadata α] where
  map : KeyMap ObjectKey α
  keyed : ∀ e ∈ map.entries, e.1 = .of e.2
  deriving Repr

namespace Objects

variable {α : Type} [HasMetadata α]

def empty : Objects α := ⟨.empty, fun _ h => nomatch h⟩

instance : Inhabited (Objects α) := ⟨empty⟩

instance [DecidableEq α] : DecidableEq (Objects α) := fun a b =>
  if h : a.map = b.map then
    isTrue (by cases a; cases b; cases h; rfl)
  else isFalse (fun e => h (e ▸ rfl))

/-- Put an object in its place, over the one with its key. -/
def put (objects : Objects α) (a : α) : Objects α where
  map := objects.map.insert (.of a) a
  keyed e h := by
    rcases KeyMap.fst_mem_insertEntry h with rfl | h
    · rfl
    · exact objects.keyed e h

/-- The objects that a list puts in their places, one after the other. -/
def ofList (as : List α) : Objects α := as.foldl put empty

def get? (objects : Objects α) (key : ObjectKey) : Option α := objects.map.get? key

/-- An object is found under no key but its own. -/
theorem of_get? {objects : Objects α} {key : ObjectKey} {a : α} (h : objects.get? key = some a) :
    .of a = key :=
  (objects.keyed _ (KeyMap.mem_of_get? h)).symm

end Objects

/-- The objects of a platform, and the permissions that runs have recorded in it. -/
structure ObjectStore where
  statefulSets : Objects StatefulSet := .empty
  crdbNodes : Objects CrdbNode := .empty
  pods : Objects Pod := .empty
  claims : Objects Claim := .empty
  secrets : Objects Secret := .empty
  services : Objects Service := .empty
  configMaps : Objects ConfigMap := .empty
  rbac : List String := []
  deriving DecidableEq, Repr, Inhabited

namespace ObjectStore

/-! ## Reading -/

def statefulSet? (s : ObjectStore) (ns name : String) : Option StatefulSet :=
  s.statefulSets.get? ⟨ns, name⟩

/-- The CrdbNodes of a cluster, by their label, in key order. -/
def crdbNodesOf (s : ObjectStore) (ns cluster : String) : List CrdbNode :=
  (s.crdbNodes.map.filter fun key node =>
    key.ns = ns && node.metadata.label? Names.clusterLabel = some cluster).values

def pod? (s : ObjectStore) (ns name : String) : Option Pod := s.pods.get? ⟨ns, name⟩

def claim? (s : ObjectStore) (ns name : String) : Option Claim := s.claims.get? ⟨ns, name⟩

def secret? (s : ObjectStore) (ns name : String) : Option Secret := s.secrets.get? ⟨ns, name⟩

def configMap? (s : ObjectStore) (ns name : String) : Option ConfigMap :=
  s.configMaps.get? ⟨ns, name⟩

def service? (s : ObjectStore) (ns name : String) : Option Service := s.services.get? ⟨ns, name⟩

/-! ## Writing -/

def applyConfigMap (s : ObjectStore) (ns : String) (c : ConfigMap) : ObjectStore :=
  let c := { c with metadata.ns := some ns }
  { s with configMaps := s.configMaps.put c }

/-- Record permissions by the kinds and names of their objects. -/
def recordRbac (s : ObjectStore) (ns : String) (names : List String) : ObjectStore :=
  { s with rbac := s.rbac ++ names.map (Names.qualified ns) }

/-! ## Loading -/

def kindOf (v : Value) : String := ((v.field? "kind").bind (·.asText?)).getD ""

def decode {α : Type} (c : Codec α) (v : Value) : Outcome α :=
  (c.read v).mapError fun reason => .document reason.message

/-- Add the object that a document describes. Kinds that the library does not know are left
out. -/
def addDocument (s : ObjectStore) (v : Value) : Outcome ObjectStore := do
  match kindOf v with
  | "StatefulSet" =>
    let o ← decode StatefulSet.codec v
    return { s with statefulSets := s.statefulSets.put o }
  | "CrdbNode" =>
    let o ← decode CrdbNode.codec v
    return { s with crdbNodes := s.crdbNodes.put o }
  | "Pod" =>
    let o ← decode Pod.codec v
    return { s with pods := s.pods.put o }
  | "PersistentVolumeClaim" =>
    let o ← decode Claim.codec v
    return { s with claims := s.claims.put o }
  | "Secret" =>
    let o ← decode Secret.codec v
    return { s with secrets := s.secrets.put o }
  | "ConfigMap" =>
    let o ← decode ConfigMap.codec v
    return { s with configMaps := s.configMaps.put o }
  | "Service" =>
    let o ← decode Service.codec v
    return { s with services := s.services.put o }
  | _ => return s

mutual

/-- Add what a document describes: an object, or the objects of a list one after the other, at any
depth. -/
def addValue (s : ObjectStore) : Value → Outcome ObjectStore
  | .tagged _ inner => addValue s inner
  | .map entries =>
    if kindOf (.map entries) = "List" then addItems s entries else addDocument s (.map entries)
  | _ => .ok s

/-- Add what the items of a list describe. -/
def addItems (s : ObjectStore) : List (Value × Value) → Outcome ObjectStore
  | [] => .ok s
  | (key, v) :: entries => if key = .text "items" then addSequence s v else addItems s entries

def addSequence (s : ObjectStore) : Value → Outcome ObjectStore
  | .tagged _ inner => addSequence s inner
  | .seq items => addAll s items
  | _ => .ok s

/-- Add what several documents describe, a later object winning over an earlier one. -/
def addAll (s : ObjectStore) : List Value → Outcome ObjectStore
  | [] => .ok s
  | v :: vs => do addAll (← addValue s v) vs

end

/-- The store that some documents describe. -/
def ofDocuments (documents : List Value) : Outcome ObjectStore := addAll {} documents

def load (text : String) : Outcome ObjectStore := do
  let documents ← (readStream text).mapError fun fault => Failure.document fault.message
  ofDocuments documents

end ObjectStore

end Handover
