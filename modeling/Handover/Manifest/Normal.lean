import Handover.Yaml.Value

/-!
# Normal documents

What the platform fills in does not belong in a manifest: creation times that are null, an empty
status, and the metadata that a server keeps. An entry that is removed leaves its place to the
last entry of its mapping.
-/

namespace Handover.Manifest

open Yaml

/-- The entries without the one at a key, whose place the last entry takes. -/
def swapRemove (key : String) : List (Value × Value) → List (Value × Value)
  | [] => []
  | e :: es =>
    if e.1 = .text key then
      match es.getLast? with
      | some last => last :: es.dropLast
      | none => []
    else e :: swapRemove key es

def creationTimestamp : String := "creationTimestamp"

def dropNullTimestamp (entries : List (Value × Value)) : List (Value × Value) :=
  match Value.lookup creationTimestamp entries with
  | some v => if v.isNull then swapRemove creationTimestamp entries else entries
  | none => entries

mutual

/-- The value without null creation times, at any depth that is reached through the values of
mappings and the items of sequences. -/
def dropNullTimestamps : Value → Value
  | .seq items => .seq (dropInItems items)
  | .map entries => .map (dropNullTimestamp (dropInEntries entries))
  | v => v

def dropInItems : List Value → List Value
  | [] => []
  | v :: vs => dropNullTimestamps v :: dropInItems vs

/-- The entries with values without null creation times. -/
def dropInEntries : List (Value × Value) → List (Value × Value)
  | [] => []
  | (k, v) :: es => (k, dropNullTimestamps v) :: dropInEntries es

end

def isEmptyStatus : Value → Bool
  | .null => true
  | .map [] => true
  | _ => false

/-- The entries of a document without a status that says nothing. -/
def dropEmptyStatus (entries : List (Value × Value)) : List (Value × Value) :=
  match Value.lookup "status" entries with
  | some v => if isEmptyStatus v then swapRemove "status" entries else entries
  | none => entries

/-- The metadata that a server keeps, in the order in which it is removed. -/
def serverKeys : List String :=
  [creationTimestamp, "resourceVersion", "uid", "managedFields", "generation", "selfLink"]

def dropServerKeys : Value → Value
  | .map entries => .map (serverKeys.foldl (fun es key => swapRemove key es) entries)
  | v => v

/-- The entries of a document with other metadata. -/
def updateMetadata (f : Value → Value) : List (Value × Value) → List (Value × Value)
  | [] => []
  | e :: es => if e.1 = .text "metadata" then (e.1, f e.2) :: es else e :: updateMetadata f es

def normalize (document : Value) : Value :=
  match dropNullTimestamps document with
  | .map entries => .map (updateMetadata dropServerKeys (dropEmptyStatus entries))
  | v => v

end Handover.Manifest
