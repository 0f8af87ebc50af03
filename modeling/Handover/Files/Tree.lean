import Handover.Data.KeyMap
import Handover.Files.System

/-!
# Trees of files

A file system as a value: what stands at each place below the root. A place is the list of names
that lead to it, and what stands at a place stands in a directory.
-/

namespace Handover

/-- The names that lead from the root to a file or directory. -/
abbrev Place := List String

/-- What stands at a place. -/
inductive FileEntry where
  | file (text : String)
  | directory
  deriving DecidableEq, Repr, Inhabited

/-- A tree of files, seen from a directory in which relative paths start. -/
structure FileTree where
  entries : KeyMap Place FileEntry := .empty
  workingDirectory : Place := []
  deriving DecidableEq, Repr, Inhabited

namespace FileTree

/-- What stands at a place. The root is a directory. -/
def entry? (t : FileTree) (place : Place) : Option FileEntry :=
  if place = [] then some .directory else t.entries.get? place

def put (t : FileTree) (place : Place) (e : FileEntry) : FileTree :=
  { t with entries := t.entries.insert place e }

def erase (t : FileTree) (place : Place) : FileTree :=
  { t with entries := t.entries.erase place }

/-! ## Finding places -/

def longestName : Nat := 255

/-- The place that some names lead to from a directory. All but the last must be those of
directories; a dot stands for the directory itself and two dots for the one that it lies in. -/
def walk (t : FileTree) (place : Place) : List String → Except FileFault Place
  | [] => .ok place
  | name :: names =>
    if name = "." then walk t place names
    else if name = ".." then walk t place.dropLast names
    else if longestName < name.utf8ByteSize then .error .nameTooLong
    else
      let next := place ++ [name]
      if names.isEmpty then .ok next
      else
        match t.entry? next with
        | some .directory => walk t next names
        | some (.file _) => .error .notDirectory
        | none => .error .notFound

/-- The names that a path is made of, the dots among them. -/
def names (path : String) : List String :=
  (Text.split '/' path).filter fun name => !name.isEmpty

def locate (t : FileTree) (path : String) : Except FileFault Place :=
  if path.isEmpty then .error .notFound
  else if path.toList.contains '\x00' then
    .error (.other "file name contained an unexpected NUL byte")
  else
    t.walk (if Path.isAbsolute path then [] else t.workingDirectory) (names path)

/-- Whether a path says that a directory stands at its end. -/
def wantsDirectory (path : String) : Bool := Text.endsWith path "/"

/-- Whether a path ends in a name, so that what stands there can be replaced. -/
def endsInName (path : String) : Bool :=
  match (names path).getLast? with
  | some name => name ≠ "." && name ≠ ".."
  | none => false

/-! ## Operations -/

def readText (t : FileTree) (path : String) : Except FileFault String := do
  match t.entry? (← t.locate path) with
  | some (.file text) => if wantsDirectory path then throw .notDirectory else return text
  | some .directory => throw .isDirectory
  | none => throw .notFound

def isDirectory (t : FileTree) (path : String) : Bool :=
  match t.locate path with
  | .ok place => t.entry? place = some .directory
  | .error _ => false

def makeDirectory (t : FileTree) (path : String) : Except FileFault FileTree := do
  let place ← t.locate path
  match t.entry? place with
  | some _ => throw .exists
  | none => return t.put place .directory

def writeText (t : FileTree) (path text : String) : Except FileFault FileTree := do
  let place ← t.locate path
  if wantsDirectory path || t.entry? place = some .directory then throw .isDirectory
  else return t.put place (.file text)

/-- The tree with a file at another path. -/
def rename (t : FileTree) (source target : String) : Except FileFault FileTree := do
  let source ← t.locate source
  let place ← t.locate target
  if !endsInName target then throw .busy
  match t.entry? source with
  | some (.file text) =>
    if wantsDirectory target then throw .notDirectory
    else if t.entry? place = some .directory then throw .isDirectory
    else return (t.erase source).put place (.file text)
  | some .directory => throw .isDirectory
  | none => throw .notFound

def remove (t : FileTree) (path : String) : FileTree :=
  match t.locate path with
  | .ok place => if t.entry? place = some .directory then t else t.erase place
  | .error _ => t

/-! ## The tree as a setting -/

def update (f : FileTree → Except FileFault FileTree) : StateM FileTree (Except FileFault Unit) :=
  fun t =>
    match f t with
    | .ok next => (.ok (), next)
    | .error fault => (.error fault, t)

instance : FileSystem (StateM FileTree) where
  readText path := do return (← get).readText path
  isDirectory path := do return (← get).isDirectory path
  makeDirectory path := update (·.makeDirectory path)
  writeText path text := update (·.writeText path text)
  rename source target := update (·.rename source target)
  remove path := modify (·.remove path)

end FileTree

end Handover
