import Handover.Yaml.Codec

/-!
# Shapes

Parts of an object that nobody looks into are kept as documents. A shape says which documents
such a part may have, and reading by a shape gives the one document in which the part is
written: fields in the order of the shape, maps in key order, no field that the shape does not
know, and every required field in its place.
-/

namespace Handover.Yaml

/-- The form of a document. -/
inductive Shape where
  | any
  | text
  | bool
  | int32
  | int64
  | intOrText
  | time
  | list (item : Shape)
  | map (value : Shape)
  /-- Fields with their names, whether they are always written, and their forms. -/
  | record (fields : List (String × Bool × Shape))

namespace Shape

def opt (name : String) (s : Shape) : String × Bool × Shape := (name, false, s)

def req (name : String) (s : Shape) : String × Bool × Shape := (name, true, s)

mutual

/-- The document of a part that is left out where it is required. -/
def blank : Shape → Value
  | .any => .null
  | .text => .text ""
  | .bool => .bool false
  | .int32 => .number (.int 0)
  | .int64 => .number (.int 0)
  | .intOrText => .number (.int 0)
  | .time => .text "1970-01-01T00:00:00Z"
  | .list _ => .seq []
  | .map _ => .map []
  | .record fields => .map (blankFields fields)

def blankFields : List (String × Bool × Shape) → List (Value × Value)
  | [] => []
  | (name, true, s) :: fields => (.text name, s.blank) :: blankFields fields
  | (_, false, _) :: fields => blankFields fields

end

mutual

/-- The document in which a part is written, from any document of the part. -/
def read : Shape → Value → Except Unreadable Value
  | .any, v => .ok v
  | .text, v => Codec.text.write <$> Codec.text.read v
  | .bool, v => Codec.bool.write <$> Codec.bool.read v
  | .int32, v => Codec.int32.write <$> Codec.int32.read v
  | .int64, v => Codec.int64.write <$> Codec.int64.read v
  | .intOrText, .text s => .ok (.text s)
  | .intOrText, .number n => Codec.int32.write <$> Codec.int32.read (.number n)
  | .intOrText, _ => .error (.expected "a whole number or a text")
  | .time, v => Codec.time.write <$> Codec.time.read v
  | .list s, v => do return .seq (← (← Codec.items v).mapM s.read)
  | .map s, v => do
    let fields ← (← Fields.ofValue v).mapM fun (k, v) => (k, ·) <$> s.read v
    return Value.record (KeyMap.ofList fields).entries
  | .record fields, v => do return .map (← readFields fields (← Fields.ofValue v))

def readFields : List (String × Bool × Shape) → Fields → Except Unreadable (List (Value × Value))
  | [], _ => .ok []
  | (name, needed, s) :: fields, given => do
    let rest ← readFields fields given
    match given.get? name with
    | some v => return (.text name, ← s.read v) :: rest
    | none => return if needed then (.text name, s.blank) :: rest else rest

end

/-- The documents of a shape, each held as the one in which it is written. -/
def codec (s : Shape) : Codec Value := ⟨s.read, id⟩

end Shape

end Handover.Yaml
