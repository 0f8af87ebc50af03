import Handover.Yaml.Codec

/-!
# Chart values

The values of a chart carry only what was seen: an entry that would be null or empty is left
out, so the chart's own default applies.
-/

namespace Handover.Manifest

open Yaml

def isVoid : Value → Bool
  | .null => true
  | .text s => s.isEmpty
  | .seq items => items.isEmpty
  | .map entries => entries.isEmpty
  | _ => false

abbrev Entries := List (Value × Value)

namespace Entries

/-- Put a value at a key, unless the value says nothing. -/
def put (entries : Entries) (key : String) (value : Value) : Entries :=
  if isVoid value then entries else insertEntry (.text key) value entries

def putText (entries : Entries) (key text : String) : Entries := entries.put key (.text text)

/-- Put a text at a key, when there is one. -/
def putText? (entries : Entries) (key : String) (text : Option String) : Entries :=
  match text with
  | some text => entries.putText key text
  | none => entries

def putNumber (entries : Entries) (key : String) (n : Int) : Entries :=
  entries.put key (.number (.int n))

def putBool (entries : Entries) (key : String) (b : Bool) : Entries := entries.put key (.bool b)

def putEntries (entries : Entries) (key : String) (inner : Entries) : Entries :=
  entries.put key (.map inner)

def putObject {α : Type} (entries : Entries) (key : String) (c : Codec α) (a : α) : Entries :=
  entries.put key (c.write a)

/-- Put an object at a key, when there is one. -/
def putObject? {α : Type} (entries : Entries) (key : String) (c : Codec α) (a : Option α) :
    Entries :=
  match a with
  | some a => entries.putObject key c a
  | none => entries

end Entries

end Handover.Manifest
