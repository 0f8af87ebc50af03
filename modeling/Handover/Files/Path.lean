import Handover.Text.Basic

/-!
# Paths

A path is a text with slashes between its pieces. Empty pieces and single dots do not count,
except for a dot at the start of a relative path; joining and taking the parent keep the text as
it was given.
-/

namespace Handover.Path

def isAbsolute (path : String) : Bool := Text.startsWith path "/"

/-- A path below a directory. An absolute path stands for itself. -/
def join (dir path : String) : String :=
  if isAbsolute path then path
  else if dir.isEmpty || Text.endsWith dir "/" then dir ++ path
  else dir ++ "/" ++ path

def isSilent (piece : String) : Bool := piece.isEmpty || piece = "."

/-- Pieces, last first, without the silent ones at the end; the first piece of a path stays. -/
def dropSilent : List String → List String
  | piece :: next :: pieces =>
    if isSilent piece then dropSilent (next :: pieces) else piece :: next :: pieces
  | pieces => pieces

/-- The pieces of a path, last first, without the silent ones at the end. -/
def pieces (path : String) : List String := dropSilent (Text.split '/' path).reverse

/-- The directory that a path lies in. The root and the empty path lie in none. -/
def parent? (path : String) : Option String :=
  match pieces path with
  | [] => none
  | [piece] => if piece.isEmpty then none else some ""
  | _ :: rest =>
    let rest := dropSilent rest
    if rest = [""] then some "/" else some (Text.join "/" rest.reverse)

/-- The last piece of a path, when it is a name. -/
def fileName? (path : String) : Option String :=
  match pieces path with
  | piece :: _ => if isSilent piece || piece = ".." then none else some piece
  | [] => none

end Handover.Path
