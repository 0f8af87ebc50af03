import Handover.Text.Numeral
import Handover.Yaml.Cursor

/-!
# Block scalars

A literal or folded text of whole lines. Its indentation is stated in the header or taken from
its first line that is not blank, and the header says what becomes of the line breaks at the
end.
-/

namespace Handover.Yaml

/-- What becomes of the line breaks at the end of a block scalar. -/
inductive Chomping where
  | strip
  | clip
  | keep
  deriving DecidableEq, Repr

/-- The header of a block scalar. -/
structure BlockHeader where
  literal : Bool
  chomping : Chomping
  /-- How far the text is indented beyond its surroundings, if that is stated. -/
  indentation : Option Nat
  deriving DecidableEq, Repr

/-- The chomping indicator that comes next, if one does. -/
def chomping? : List Char → Option (Chomping × List Char)
  | '+' :: cs => some (.keep, cs)
  | '-' :: cs => some (.strip, cs)
  | _ => none

/-- The indentation digit that comes next, if one does. Zero is not allowed. -/
def indentation? : List Char → Except Fault (Option (Nat × List Char))
  | c :: cs =>
    if c = '0' then .error .badBlockHeader
    else if Text.isDigit c then .ok (some (Text.digitValue c, cs))
    else .ok none
  | [] => .ok none

/-- Read the indicators of a header, in either order. -/
def blockHeader (literal : Bool) (c : Cursor) : Except Fault (BlockHeader × Cursor) := do
  match chomping? c.rest with
  | some (chomping, cs) =>
    match ← indentation? cs with
    | some (n, _) => .ok (⟨literal, chomping, some n⟩, c.drop 2)
    | none => .ok (⟨literal, chomping, none⟩, c.drop 1)
  | none =>
    match ← indentation? c.rest with
    | some (n, cs) =>
      match chomping? cs with
      | some (chomping, _) => .ok (⟨literal, chomping, some n⟩, c.drop 2)
      | none => .ok (⟨literal, .clip, some n⟩, c.drop 1)
    | none => .ok (⟨literal, .clip, none⟩, c)

/-- The lines read so far of a block scalar. -/
structure BlockText where
  /-- The text in reverse. -/
  out : List Char := []
  /-- The break that ended the last line of text. -/
  lineBreak : Option Char := none
  /-- The breaks of the blank lines since then, in reverse. -/
  blankLines : List Char := []
  /-- Whether the last line of text began with a space or tab. -/
  indented : Bool := false
  deriving Repr

namespace BlockText

/-- The text in reverse, with the breaks that stand in front of a new line. A folded text
joins two lines that both start at its own indentation: with a space if they are neighbours,
with the blank lines between them otherwise. -/
def beforeLine (t : BlockText) (literal startsBlank : Bool) : List Char :=
  if !literal && t.lineBreak == some '\n' && !t.indented && !startsBlank then
    if t.blankLines.isEmpty then ' ' :: t.out else t.blankLines ++ t.out
  else t.blankLines ++ t.lineBreak.toList ++ t.out

/-- The text with the breaks at its end that the chomping keeps. -/
def finish (t : BlockText) : Chomping → String
  | .strip => String.ofList t.out.reverse
  | .clip => String.ofList (t.lineBreak.toList ++ t.out).reverse
  | .keep => String.ofList (t.blankLines ++ t.lineBreak.toList ++ t.out).reverse

end BlockText

/-- Read blank lines and the indentation of the first line with text, where the indentation
is yet to be found. Answers the breaks in reverse and the largest column that was reached. -/
def leadingLines (breaks : List Char) (deepest : Nat) (m : Mark) :
    List Char → Except Fault (List Char × Nat × Cursor)
  | [] => .ok (breaks, max deepest m.column, ⟨m, []⟩)
  | '\r' :: '\n' :: cs => leadingLines ('\n' :: breaks) (max deepest m.column) (m.newLine 2) cs
  | c :: cs =>
    if c = ' ' then leadingLines breaks deepest m.next cs
    else if c = '\t' then .error .tabInIndentation
    else if isBreak c then
      leadingLines (breakChar c :: breaks) (max deepest m.column) (m.newLine 1) cs
    else .ok (breaks, max deepest m.column, ⟨m, c :: cs⟩)

/-- Read the lines of a block scalar on from a place. `inLine` says whether the place is within
a line of text, behind its indentation. -/
def blockLines (literal : Bool) (indent : Nat) (t : BlockText) (inLine : Bool) (m : Mark) :
    List Char → Except Fault (BlockText × Cursor)
  | [] => .ok (if inLine then { t with lineBreak := none } else t, ⟨m, []⟩)
  | '\r' :: '\n' :: cs =>
    blockLines literal indent
      (if inLine then { t with lineBreak := some '\n' }
        else { t with blankLines := '\n' :: t.blankLines })
      false (m.newLine 2) cs
  | c :: cs =>
    if isBreak c then
      blockLines literal indent
        (if inLine then { t with lineBreak := some (breakChar c) }
          else { t with blankLines := breakChar c :: t.blankLines })
        false (m.newLine 1) cs
    else if inLine then blockLines literal indent { t with out := c :: t.out } true m.next cs
    else if m.column < indent && c = ' ' then blockLines literal indent t false m.next cs
    else if m.column < indent && c = '\t' then .error .tabInIndentation
    else if m.column = indent then
      blockLines literal indent
        { out := c :: t.beforeLine literal (isSpace c), indented := isSpace c } true m.next cs
    else .ok (t, ⟨m, c :: cs⟩)

/-- Read a block scalar, from the place behind its indicator. `outer` is the column of the
surrounding collection, `-1` outside of any. -/
def blockScalar (literal : Bool) (outer : Int) (c : Cursor) : Except Fault (String × Cursor) := do
  let (header, c) ← blockHeader literal c
  match c.endOfLine? with
  | none => .error .badBlockHeader
  | some c =>
    match header.indentation with
    | some n =>
      let indent := n + outer.toNat
      let (t, stop) ← blockLines literal indent {} false c.mark c.rest
      .ok (t.finish header.chomping, stop)
    | none =>
      let (breaks, deepest, c) ← leadingLines [] 0 c.mark c.rest
      let indent := max deepest (max (outer + 1).toNat 1)
      let (t, stop) ← blockLines literal indent { blankLines := breaks } false c.mark c.rest
      .ok (t.finish header.chomping, stop)

end Handover.Yaml
