import Handover.Yaml.Cursor

/-!
# Line folding in flow scalars

Between two visible characters of a plain or quoted scalar there may be a gap. A gap within a
line is kept. A gap over line breaks becomes one space, or, when there are several breaks, the
breaks after the first.
-/

namespace Handover.Yaml

/-- The blanks read since the last visible character of a scalar. -/
inductive Gap where
  /-- Blanks within a line, in reverse. -/
  | spaces (reversed : List Char)
  /-- A line break, none if it was escaped, and the further ones in reverse. -/
  | lines (first : Option Char) (reversed : List Char)
  deriving DecidableEq, Repr

namespace Gap

def none : Gap := .spaces []

def brokeLine : Gap → Bool
  | .spaces _ => false
  | .lines _ _ => true

def isEmpty : Gap → Bool
  | .spaces [] => true
  | _ => false

/-- The gap with one more space or tab. After a line break it is indentation and is dropped. -/
def blank (c : Char) : Gap → Gap
  | .spaces r => .spaces (c :: r)
  | .lines first r => .lines first r

/-- The gap with one more line break. Blanks before the first break are dropped. -/
def newLine (c : Char) : Gap → Gap
  | .spaces _ => .lines (some (breakChar c)) []
  | .lines first r => .lines first (breakChar c :: r)

/-- Write the gap after the characters before it, all in reverse. -/
def fill (out : List Char) : Gap → List Char
  | .spaces r => r ++ out
  | .lines (some '\n') [] => ' ' :: out
  | .lines (some '\n') r => r ++ out
  | .lines (some c) r => r ++ c :: out
  | .lines .none r => r ++ out

end Gap

end Handover.Yaml
