import Handover.Decimal.Binary64

/-!
# YAML values

A document is a tree of scalars, sequences and mappings, where a mapping is the list of its
entries in the order they stand in. That its keys are distinct is a property of a value
(`DistinctKeys`), which reading establishes, and not a part of the type.

Two notions of sameness are used. Equality compares trees as they stand. `Value.agrees` is
coarser: the order of entries does not count, and this is what makes a key a repeated key.
-/

namespace Handover.Yaml

/-- A number of a document. Whole numbers lie between `-2 ^ 63` and `2 ^ 64 - 1`. -/
inductive Number where
  | int (i : Int)
  | real (x : Binary64)
  deriving DecidableEq, Repr, Inhabited

/-- Whether two numbers count as one when keys are compared. -/
def Number.agrees : Number → Number → Bool
  | .real x, .real y => x.agrees y
  | m, n => m = n

/-- A value of a document. -/
inductive Value where
  | null
  | bool (b : Bool)
  | number (n : Number)
  | text (s : String)
  | seq (items : List Value)
  | map (entries : List (Value × Value))
  /-- A value under a local tag; the tag is held without its exclamation mark. -/
  | tagged (tag : String) (inner : Value)
  deriving Repr, Inhabited

namespace Value

/-! ## Equality -/

mutual

def same : Value → Value → Bool
  | .null, .null => true
  | .bool a, .bool b => a == b
  | .number m, .number n => m == n
  | .text s, .text t => s == t
  | .seq xs, .seq ys => sameItems xs ys
  | .map xs, .map ys => sameEntries xs ys
  | .tagged s x, .tagged t y => s == t && same x y
  | _, _ => false

def sameItems : List Value → List Value → Bool
  | [], [] => true
  | x :: xs, y :: ys => same x y && sameItems xs ys
  | _, _ => false

def sameEntries : List (Value × Value) → List (Value × Value) → Bool
  | [], [] => true
  | (k, v) :: xs, (l, w) :: ys => same k l && same v w && sameEntries xs ys
  | _, _ => false

end

mutual

theorem same_iff : ∀ x y : Value, same x y = true ↔ x = y
  | .null, y => by cases y <;> simp [same]
  | .bool _, y => by cases y <;> simp [same]
  | .number _, y => by cases y <;> simp [same]
  | .text _, y => by cases y <;> simp [same]
  | .seq xs, y => by cases y <;> simp [same, sameItems_iff xs]
  | .map xs, y => by cases y <;> simp [same, sameEntries_iff xs]
  | .tagged _ x, y => by cases y <;> simp [same, same_iff x]

theorem sameItems_iff : ∀ xs ys : List Value, sameItems xs ys = true ↔ xs = ys
  | [], ys => by cases ys <;> simp [sameItems]
  | x :: xs, ys => by cases ys <;> simp [sameItems, same_iff x, sameItems_iff xs]

theorem sameEntries_iff : ∀ xs ys : List (Value × Value), sameEntries xs ys = true ↔ xs = ys
  | [], ys => by cases ys <;> simp [sameEntries]
  | (k, v) :: xs, ys => by
    rcases ys with _ | ⟨⟨l, w⟩, ys⟩
    · simp [sameEntries]
    · simp [sameEntries, same_iff k, same_iff v, sameEntries_iff xs, and_assoc]

end

instance : DecidableEq Value := fun x y => decidable_of_iff _ (same_iff x y)

/-! ## Agreement of keys -/

mutual

/-- Whether two values are equal up to the order of mapping entries. -/
def agrees : Value → Value → Bool
  | .null, .null => true
  | .bool a, .bool b => a == b
  | .number m, .number n => m.agrees n
  | .text s, .text t => s == t
  | .seq xs, .seq ys => agreesItems xs ys
  | .map xs, .map ys => xs.length == ys.length && agreesEntries xs ys
  | .tagged s x, .tagged t y => s == t && agrees x y
  | _, _ => false

def agreesItems : List Value → List Value → Bool
  | [], [] => true
  | x :: xs, y :: ys => agrees x y && agreesItems xs ys
  | _, _ => false

/-- Whether every entry of the first list agrees with one of the second. -/
def agreesEntries : List (Value × Value) → List (Value × Value) → Bool
  | [], _ => true
  | (k, v) :: xs, ys => ys.any (fun e => agrees k e.1 && agrees v e.2) && agreesEntries xs ys

end

mutual

/-- The keys of every mapping in a value are pairwise different texts, numbers or trees. -/
def DistinctKeys : Value → Prop
  | .seq items => DistinctKeysItems items
  | .map entries =>
    entries.Pairwise (fun a b => agrees a.1 b.1 = false) ∧ DistinctKeysEntries entries
  | .tagged _ inner => DistinctKeys inner
  | _ => True

def DistinctKeysItems : List Value → Prop
  | [] => True
  | x :: xs => DistinctKeys x ∧ DistinctKeysItems xs

/-- Distinct keys in every key and every entry's value. -/
def DistinctKeysEntries : List (Value × Value) → Prop
  | [] => True
  | (k, v) :: xs => DistinctKeys k ∧ DistinctKeys v ∧ DistinctKeysEntries xs

end

/-! ## Access -/

/-- The value below any tags. -/
def untagged : Value → Value
  | .tagged _ inner => inner.untagged
  | v => v

/-- Whether a value is null, below any tags. -/
def isNull (v : Value) : Bool :=
  match v.untagged with
  | .null => true
  | _ => false

def lookup (key : String) (entries : List (Value × Value)) : Option Value :=
  (entries.find? fun e => e.1 = .text key).map (·.2)

/-- The value at a text key, when the value is a mapping, tagged or not. -/
def field? (key : String) (v : Value) : Option Value :=
  match v.untagged with
  | .map entries => lookup key entries
  | _ => none

/-- The text that a value is, below any tags. -/
def asText? (v : Value) : Option String :=
  match v.untagged with
  | .text s => some s
  | _ => none

/-- The items of a sequence, tagged or not. -/
def asItems? (v : Value) : Option (List Value) :=
  match v.untagged with
  | .seq items => some items
  | _ => none

def record (fields : List (String × Value)) : Value :=
  .map (fields.map fun f => (.text f.1, f.2))

end Value

/-- Put a value at a key: over the value that is there, or as the last entry. -/
def insertEntry (key value : Value) : List (Value × Value) → List (Value × Value)
  | [] => [(key, value)]
  | e :: es => if e.1 = key then (e.1, value) :: es else e :: insertEntry key value es

end Handover.Yaml
