import Handover.Data.KeyMap
import Handover.Text.Base64
import Handover.Text.Instant
import Handover.Yaml.Value

/-!
# Typed documents

A codec ties a type to its documents: it reads a value of the type from a document and writes
one. Reading is lenient where a document leaves something open: tags are dropped, a mapping may
hold fields that nobody asks for, and null stands for an absent field, an empty sequence or an
empty mapping. Scalars are never converted: where a text is wanted, a number is refused.

`Codec.Lawful` says that what is written is read back as it was.
-/

namespace Handover.Yaml

/-- Why a value is not the document of an object. -/
inductive Unreadable where
  | expected (kind : String)
  | missing (field : String)
  | keyNotText
  | foreign (field found : String)
  deriving DecidableEq, Repr

def Unreadable.message : Unreadable → String
  | .expected kind => s!"invalid type: expected {kind}"
  | .missing field => s!"missing field '{field}'"
  | .keyNotText => "invalid type: expected a field name"
  | .foreign field found => s!"invalid value '{found}' of {field}"

/-- A way to read values of a type from documents and to write them. -/
structure Codec (α : Type) where
  read : Value → Except Unreadable α
  write : α → Value

namespace Codec

variable {α β : Type}

/-- What is written is never null and is read back as it was. -/
def Lawful (c : Codec α) : Prop := ∀ a, c.write a ≠ .null ∧ c.read (c.write a) = .ok a

/-! ## Scalars -/

def text : Codec String where
  read v := match v.untagged with
    | .text s => .ok s
    | _ => .error (.expected "a text")
  write s := .text s

def bool : Codec Bool where
  read v := match v.untagged with
    | .bool b => .ok b
    | _ => .error (.expected "a truth value")
  write b := .bool b

def readInt (least greatest : Int) (v : Value) : Except Unreadable Int :=
  match v.untagged with
  | .number (.int i) =>
    if least ≤ i ∧ i ≤ greatest then .ok i else .error (.expected "a whole number in range")
  | _ => .error (.expected "a whole number")

def int32 : Codec Int32 where
  read v := Int32.ofInt <$> readInt Int32.minValue.toInt Int32.maxValue.toInt v
  write i := .number (.int i.toInt)

def int64 : Codec Int64 where
  read v := Int64.ofInt <$> readInt Int64.minValue.toInt Int64.maxValue.toInt v
  write i := .number (.int i.toInt)

/-- A point in time, held in its written form. -/
def time : Codec String where
  read v := do
    match Text.Instant.read (← text.read v) with
    | some t => .ok t.write
    | none => .error (.expected "a point in time")
  write s := .text s

/-- Bytes as Base64; null has none. -/
def bytes : Codec (List UInt8) where
  read
    | .null => .ok []
    | v => do
      match Text.Base64.decode (← text.read v).toList with
      | some bs => .ok bs
      | none => .error (.expected "Base64")
  write bs := .text (String.ofList (Text.Base64.encode bs))

/-! ## Sequences and maps -/

/-- The items of a sequence; null has none. -/
def items (v : Value) : Except Unreadable (List Value) :=
  match v.untagged with
  | .seq xs => .ok xs
  | .null => .ok []
  | _ => .error (.expected "a sequence")

def list (c : Codec α) : Codec (List α) where
  read v := do (← items v).mapM c.read
  write xs := .seq (xs.map c.write)

end Codec

abbrev Fields := List (String × Value)

namespace Fields

def ofEntry (e : Value × Value) : Except Unreadable (String × Value) :=
  match e.1.asText? with
  | some name => .ok (name, e.2)
  | none => .error .keyNotText

/-- The fields of a mapping; null has none. -/
def ofValue (v : Value) : Except Unreadable Fields :=
  match v.untagged with
  | .map entries => entries.mapM ofEntry
  | .null => .ok []
  | _ => .error (.expected "a mapping")

/-- The value of a field, unless it is absent or null. -/
def get? (fs : Fields) (name : String) : Option Value :=
  match fs.find? (·.1 = name) with
  | none => none
  | some (_, .null) => none
  | some (_, v) => some v

/-- The value of a field that must stand there, be it null. -/
def get (fs : Fields) (name : String) : Except Unreadable Value :=
  match fs.find? (·.1 = name) with
  | none => .error (.missing name)
  | some (_, v) => .ok v

variable {α : Type}

def optional (fs : Fields) (name : String) (c : Codec α) : Except Unreadable (Option α) :=
  match fs.get? name with
  | none => .ok none
  | some v => some <$> c.read v

/-- A field that stands for `default` when it is absent or null. -/
def withDefault (fs : Fields) (name : String) (c : Codec α) (default : α) :
    Except Unreadable α := do
  return (← fs.optional name c).getD default

def required (fs : Fields) (name : String) (c : Codec α) : Except Unreadable α := do
  c.read (← fs.get name)

/-- A field that stands for `default` when it is absent, but is read when it is null. -/
def unlessAbsent (fs : Fields) (name : String) (c : Codec α) (default : α) :
    Except Unreadable α :=
  match fs.find? (·.1 = name) with
  | none => .ok default
  | some (_, v) => c.read v

/-! ## Writing -/

def one (name : String) (c : Codec α) (a : α) : Fields := [(name, c.write a)]

/-- One field, when there is a value for it. -/
def opt (name : String) (c : Codec α) : Option α → Fields
  | some a => one name c a
  | none => []

end Fields

namespace Codec

variable {α : Type}

/-- A map from texts, in the order of its keys. -/
def map (c : Codec α) : Codec (KeyMap String α) where
  read v := do
    let entries ← (← Fields.ofValue v).mapM fun (k, v) => (k, ·) <$> c.read v
    return KeyMap.ofList entries
  write m := Value.record (m.map c.write).entries

def record (readFields : Fields → Except Unreadable α) (fields : α → Fields) : Codec α where
  read v := do readFields (← Fields.ofValue v)
  write a := Value.record (fields a)

/-- Refuse another text than `own` at a field that tells the type of an object. -/
def checkOwn (fs : Fields) (name own : String) : Except Unreadable Unit := do
  let found ← fs.unlessAbsent name text own
  if found = own then .ok () else .error (.foreign name found)

/-- Objects of their own by their fields. The type may be left out of a document, but when it is
given it must be the object's; writing gives it first. -/
def object (apiVersion kind : String) (readFields : Fields → Except Unreadable α)
    (fields : α → Fields) : Codec α :=
  record
    (fun fs => do
      checkOwn fs "apiVersion" apiVersion
      checkOwn fs "kind" kind
      readFields fs)
    (fun a => ("apiVersion", .text apiVersion) :: ("kind", .text kind) :: fields a)

end Codec

end Handover.Yaml
