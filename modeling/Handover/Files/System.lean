import Handover.Failure
import Handover.Files.Path

/-!
# File systems

The operations on files that a run needs, in any setting that offers them. Each operation
either has its whole effect or fails without one.
-/

namespace Handover

/-- A setting with files. -/
class FileSystem (m : Type → Type) where
  /-- The text of a file. -/
  readText : (path : String) → m (Except FileFault String)
  /-- Whether there is a directory at a path. -/
  isDirectory : (path : String) → m Bool
  /-- Make one directory in a directory that exists. -/
  makeDirectory : (path : String) → m (Except FileFault Unit)
  /-- Make a file with a text, or give a file another text. -/
  writeText : (path text : String) → m (Except FileFault Unit)
  /-- Give a file another path, over the file there. -/
  rename : (source target : String) → m (Except FileFault Unit)
  /-- Remove a file, if there is one. -/
  remove : (path : String) → m Unit

namespace FileSystem

variable {m : Type → Type} [Monad m] [FileSystem m]

/-- An operation whose error is a failure that names `path`. -/
def naming {α : Type} (path : String) (operation : m (Except FileFault α)) :
    ExceptT Failure m α := do
  match ← operation with
  | .ok a => return a
  | .error fault => throw (.file path fault)

def ensureDirectory (path : String) : m (Except FileFault Unit) := do
  match ← makeDirectory path with
  | .ok () => return .ok ()
  | .error fault => if ← isDirectory path then return .ok () else return .error fault

/-- Make a directory and the directories that it lies in, as far as they do not exist. -/
def makeDirectories : Nat → (path : String) → m (Except FileFault Unit)
  | 0, _ => return .ok ()
  | depth + 1, path => do
    if path.isEmpty then return .ok ()
    match ← makeDirectory path with
    | .ok () => return .ok ()
    | .error .notFound =>
      match Path.parent? path with
      | none => return .error (.other "failed to create whole tree")
      | some parent =>
        match ← makeDirectories depth parent with
        | .ok () => ensureDirectory path
        | .error fault => return .error fault
    | .error fault => if ← isDirectory path then return .ok () else return .error fault

/-- Make a directory with all directories that it lies in. -/
def makeTree (path : String) : m (Except FileFault Unit) :=
  makeDirectories (path.length + 1) path

end FileSystem

end Handover
