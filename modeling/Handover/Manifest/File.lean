import Handover.Failure
import Handover.Manifest.Normal
import Handover.Text.Basic
import Handover.Yaml.Writer

/-!
# Manifest files

A manifest file is a stream of documents. Each is normalized before it is written, and a line of
three dashes stands between two of them.
-/

namespace Handover

/-- A file with its documents in the order in which they are written. -/
structure ManifestFile where
  name : String
  documents : List Yaml.Value
  deriving DecidableEq, Repr, Inhabited

namespace ManifestFile

def renderDocument (document : Yaml.Value) : Outcome String :=
  (Manifest.normalize document).write.mapError fun fault => .document fault.message

def render (file : ManifestFile) : Outcome String := do
  return Text.join "---\n" (← file.documents.mapM renderDocument)

end ManifestFile

end Handover
