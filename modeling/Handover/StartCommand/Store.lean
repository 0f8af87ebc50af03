import Handover.Text.Basic

/-!
# Stores on the command line

A store is given as a bare path or as fields with commas between them, such as
`path=/data,attrs=ssd`.
-/

namespace Handover.StartCommand

def hasFields (store : String) : Bool := store.toList.contains '='

def storePath? (store : String) : Option String :=
  if hasFields store then (Text.split ',' store).findSome? (Text.strip? "path=")
  else some store

/-- The fields of a store besides its path, in their order. -/
def storeOptions (store : String) : List String :=
  if hasFields store then
    (Text.split ',' store).filter fun field => !field.isEmpty && !Text.startsWith field "path="
  else []

end Handover.StartCommand
