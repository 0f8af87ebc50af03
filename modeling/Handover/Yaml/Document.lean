import Handover.Text.Basic
import Handover.Yaml.Node

/-!
# From nodes to values

Aliases are numbered references first. An anchor gets the number of names that were anchored
before it, and a number stands for the last node that got it. An alias is then replaced by the
value of its node; collections may nest 128 deep, aliases included, and only so many aliases
may be followed in one document.
-/

namespace Handover.Yaml

namespace Node

/-! ## Numbered references -/

abbrev AnchorNumbers := List (String × Nat)

/-- The number of a new anchor, and the numbers after it. -/
def giveNumber (names : AnchorNumbers) (name : String) : Nat × AnchorNumbers :=
  (names.length, (name, names.length) :: names.filter (·.1 ≠ name))

/-- The number of a node's anchor, if it has one. -/
def giveNumber? (names : AnchorNumbers) : Option String → Option Nat × AnchorNumbers
  | some name => let (n, names) := giveNumber names name; (some n, names)
  | none => (none, names)

mutual

/-- Replace anchors and aliases by numbers, in the order of the text. -/
def number (names : AnchorNumbers) : Node String → Except Fault (Node Nat × AnchorNumbers)
  | .alias name =>
    match names.find? (·.1 = name) with
    | some a => .ok (.alias a.2, names)
    | none => .error (.unknownAlias name)
  | .scalar anchor tag text isPlain =>
    let (a, names) := giveNumber? names anchor
    .ok (.scalar a tag text isPlain, names)
  | .seq anchor tag items => do
    let (a, names) := giveNumber? names anchor
    let (items, names) ← numberItems names items
    .ok (.seq a tag items, names)
  | .map anchor tag entries => do
    let (a, names) := giveNumber? names anchor
    let (entries, names) ← numberEntries names entries
    .ok (.map a tag entries, names)

def numberItems (names : AnchorNumbers) :
    List (Node String) → Except Fault (List (Node Nat) × AnchorNumbers)
  | [] => .ok ([], names)
  | x :: xs => do
    let (x, names) ← number names x
    let (xs, names) ← numberItems names xs
    .ok (x :: xs, names)

def numberEntries (names : AnchorNumbers) :
    List (Node String × Node String) → Except Fault (List (Node Nat × Node Nat) × AnchorNumbers)
  | [] => .ok ([], names)
  | (k, v) :: xs => do
    let (k, names) ← number names k
    let (v, names) ← number names v
    let (xs, names) ← numberEntries names xs
    .ok ((k, v) :: xs, names)

end

/-! ## Targets -/

/-- The node of each number, later ones first. -/
abbrev Targets := List (Nat × Node Nat)

mutual

/-- Collect the anchored nodes in the order of the text. -/
def targets (acc : Targets) : Node Nat → Targets
  | .alias _ => acc
  | .scalar a tag text isPlain => add acc a (.scalar a tag text isPlain)
  | .seq a tag items => targetsItems (add acc a (.seq a tag items)) items
  | .map a tag entries => targetsEntries (add acc a (.map a tag entries)) entries
where
  /-- Add a node under its number. -/
  add (acc : Targets) : Option Nat → Node Nat → Targets
    | some n, node => (n, node) :: acc
    | none, _ => acc

def targetsItems (acc : Targets) : List (Node Nat) → Targets
  | [] => acc
  | x :: xs => targetsItems (targets acc x) xs

def targetsEntries (acc : Targets) : List (Node Nat × Node Nat) → Targets
  | [] => acc
  | (k, v) :: xs => targetsEntries (targets (targets acc k) v) xs

end

mutual

/-- The number of marks that a node consists of: one for a scalar or an alias, two and those of
its parts for a collection. -/
def weight : Node Nat → Nat
  | .alias _ => 1
  | .scalar _ _ _ _ => 1
  | .seq _ _ items => 2 + weightItems items
  | .map _ _ entries => 2 + weightEntries entries

def weightItems : List (Node Nat) → Nat
  | [] => 0
  | x :: xs => weight x + weightItems xs

def weightEntries : List (Node Nat × Node Nat) → Nat
  | [] => 0
  | (k, v) :: xs => weight k + weight v + weightEntries xs

end

/-! ## Values -/

/-- The tag that stays on a value: a local one, without its exclamation mark, unless that is all
of it. -/
def localTag? (tag : Option String) : Option String := do
  let rest ← Text.strip? "!" (← tag)
  return if rest = "" then "!" else rest

def plainValue (text : String) : Except Fault Value :=
  match Plain.value? text with
  | some v => .ok v
  | none => .error (.oversizedInteger text)

/-- The value of a scalar without a local tag. The tags of the core types demand their type. -/
def scalarValue (tag : Option String) (text : String) (isPlain : Bool) : Except Fault Value :=
  match tag with
  | some "tag:yaml.org,2002:bool" =>
    match Plain.readBool text with
    | some b => .ok (.bool b)
    | none => .error (.badTaggedScalar "bool")
  | some "tag:yaml.org,2002:int" =>
    match Plain.readInt text.toList with
    | some (.int i) => .ok (.number (.int i))
    | _ => .error (.badTaggedScalar "int")
  | some "tag:yaml.org,2002:float" =>
    match Plain.readReal text with
    | some x => .ok (.number (.real x))
    | none => .error (.badTaggedScalar "float")
  | some "tag:yaml.org,2002:null" =>
    if Plain.isNull text then .ok .null else .error (.badTaggedScalar "null")
  | some _ => .ok (.text text)
  | none => if isPlain then plainValue text else .ok (.text text)

/-- What a document gives for following its aliases. -/
structure References where
  targets : Targets
  /-- How many aliases may be followed. -/
  limit : Nat

/-- Follow an alias. The state counts how many were followed. -/
def follow (r : References) (n : Nat) : StateT Nat (Except Fault) (Node Nat) := do
  let followed ← get
  if followed + 1 > r.limit then throw .tooManyAliases
  else
    set (followed + 1)
    match r.targets.find? (·.1 = n) with
    | some t => pure t.2
    | none => throw (.unknownAlias (toString n))

/-- The node that a reference stands for, and any other node itself. -/
def settle (r : References) : Node Nat → StateT Nat (Except Fault) (Node Nat)
  | .alias n => follow r n
  | node => pure node

def underTag (tag : Option String) (v : Value) : Value :=
  match localTag? tag with
  | some t => .tagged t v
  | none => v

/-- The value of a node, with collections nested at most `depth` deep. -/
def value (r : References) : Nat → Node Nat → StateT Nat (Except Fault) Value
  | depth, node => do
    match depth, ← settle r node with
    | _, .alias n => throw (.unknownAlias (toString n))
    | _, .scalar _ tag text isPlain =>
      if (localTag? tag).isSome then
        return underTag tag (← if isPlain then plainValue text else pure (.text text))
      else scalarValue tag text isPlain
    | 0, _ => throw .nestedTooDeep
    | depth + 1, .seq _ tag items => do
      return underTag tag (.seq (← items.mapM fun item => value r depth item))
    | depth + 1, .map _ tag entries => do
      let entries ← entries.foldlM (fun acc e => do
        let k ← value r depth e.1
        if acc.any fun e => e.1.agrees k then throw .repeatedKey
        let v ← value r depth e.2
        pure (acc ++ [(k, v)])) ([] : List (Value × Value))
      return underTag tag (.map entries)

def maxDepth : Nat := 128

def toValue (node : Node String) : Except Fault Value := do
  let (node, _) ← number [] node
  let r : References := ⟨targets [] node, 100 * node.weight⟩
  (·.1) <$> (node.value r maxDepth).run 0

end Node

/-! ## Streams -/

/-- The values of the documents of a stream. An empty stream holds one null document. -/
def readStream (text : String) : Except Fault (List Value) := do
  let nodes ← Node.documents (← tokens text)
  match nodes with
  | [] => .ok [.null]
  | nodes => nodes.mapM Node.toValue

/-- The value of a stream that has to hold a single document. -/
def readOne (text : String) : Except Fault Value := do
  match ← readStream text with
  | [v] => .ok v
  | _ => .error .severalDocuments

end Handover.Yaml
