import Handover.Files.System
import Handover.Manifest.File

/-!
# Writing manifest files

All files are rendered before the first is written. Each is written under a name of its own and
then renamed, so under its final name a file is either complete or as it was before.
-/

namespace Handover.Emission

variable {m : Type → Type} [Monad m] [FileSystem m]

/-- The path under which a file is written before it gets its name. -/
def temporary (path : String) : String :=
  let name := (Path.fileName? path).getD ""
  Path.join ((Path.parent? path).getD ".") s!".{name}.tmp"

/-- Write a file so that it is never seen half written. -/
def writeWhole (path text : String) : ExceptT Failure m Unit := do
  let early := temporary path
  FileSystem.naming early (FileSystem.writeText early text)
  match ← (FileSystem.rename early path : m _) with
  | .ok () => return ()
  | .error fault => do
    (FileSystem.remove early : m Unit)
    throw (.file path fault)

/-- Write texts under their names into a directory; the result is their paths. -/
def writeAll (dir : String) : List (String × String) → ExceptT Failure m (List String)
  | [] => return []
  | (name, text) :: files => do
    let path := Path.join dir name
    writeWhole path text
    return path :: (← writeAll dir files)

def renderNamed (file : ManifestFile) : Outcome (String × String) := do
  return (file.name, ← file.render)

/-- Render all files, then write them into a directory, which is made if it does not exist. -/
def emit (dir : String) (files : List ManifestFile) : ExceptT Failure m (List String) := do
  let rendered ← liftExcept (files.mapM renderNamed)
  FileSystem.naming dir (FileSystem.makeTree dir)
  writeAll dir rendered
where
  /-- An outcome within the setting. -/
  liftExcept {α : Type} : Outcome α → ExceptT Failure m α := fun r => ExceptT.mk (pure r)

end Handover.Emission
