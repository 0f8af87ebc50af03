import Handover.Yaml.Fault

/-!
# Places in a text

The character classes of the format, and a place in a text as the characters still to be
read together with the line and column they stand at.
-/

namespace Handover.Yaml

/-! ## Character classes -/

def isAllowed (c : Char) : Bool :=
  let n := c.toNat
  n = 0x09 || n = 0x0A || n = 0x0D || (0x20 ≤ n && n ≤ 0x7E) || n = 0x85
    || (0xA0 ≤ n && n ≤ 0xD7FF) || (0xE000 ≤ n && n ≤ 0xFFFD) || 0x10000 ≤ n

def isBreak (c : Char) : Bool :=
  c = '\n' || c = '\r' || c = '\u0085' || c = '\u2028' || c = '\u2029'

def isSpace (c : Char) : Bool := c = ' ' || c = '\t'

/-- Whether a character may stand in a name: a letter, a digit, a dash or an underscore. -/
def isWord (c : Char) : Bool :=
  ('0' ≤ c && c ≤ '9') || ('A' ≤ c && c ≤ 'Z') || ('a' ≤ c && c ≤ 'z') || c = '_' || c = '-'

/-- Whether a character separates flow items or encloses them. -/
def isFlowMark (c : Char) : Bool :=
  c = ',' || c = '[' || c = ']' || c = '{' || c = '}'

/-- Whether the text ends or a space, tab or line break comes next. -/
def blankNext : List Char → Bool
  | [] => true
  | c :: _ => isSpace c || isBreak c

def breakNext : List Char → Bool
  | [] => true
  | c :: _ => isBreak c

/-- Whether a document marker comes next: three dashes or dots that end a word. -/
def markerNext : List Char → Bool
  | '-' :: '-' :: '-' :: cs => blankNext cs
  | '.' :: '.' :: '.' :: cs => blankNext cs
  | _ => false

/-- The character that a line break is read as: the two Unicode separators stay, every other
break is a line feed. -/
def breakChar (c : Char) : Char :=
  if c = '\u2028' || c = '\u2029' then c else '\n'

/-! ## Places -/

/-- A place: how many characters and lines precede it, and its column. -/
structure Mark where
  index : Nat := 0
  line : Nat := 0
  column : Nat := 0
  deriving DecidableEq, Repr, Inhabited

def Mark.next (m : Mark) : Mark := { m with index := m.index + 1, column := m.column + 1 }

/-- The place after `n` more characters of the line. -/
def Mark.advance (m : Mark) (n : Nat) : Mark :=
  { m with index := m.index + n, column := m.column + n }

/-- The place after a line break of `n` characters. -/
def Mark.newLine (m : Mark) (n : Nat) : Mark :=
  { index := m.index + n, line := m.line + 1, column := 0 }

/-- A place together with the characters from there on. -/
structure Cursor where
  mark : Mark := {}
  rest : List Char
  deriving DecidableEq, Repr, Inhabited

namespace Cursor

/-- The place after `n` more characters of the line. -/
def drop (c : Cursor) (n : Nat) : Cursor := ⟨c.mark.advance n, c.rest.drop n⟩

/-- The characters satisfying `p` that come next, and the place after them. -/
def span (p : Char → Bool) (c : Cursor) : List Char × Cursor :=
  let taken := c.rest.takeWhile p
  (taken, c.drop taken.length)

/-- The place after the characters satisfying `p` that come next. -/
def skip (p : Char → Bool) (c : Cursor) : Cursor := (c.span p).2

/-- The place after the line break that comes next; a carriage return and the line feed after
it are one break. -/
def skipBreak (c : Cursor) : Cursor :=
  match c.rest with
  | '\r' :: '\n' :: cs => ⟨c.mark.newLine 2, cs⟩
  | b :: cs => if isBreak b then ⟨c.mark.newLine 1, cs⟩ else c
  | [] => c

/-- The place after a comment, if one comes next. -/
def skipComment (c : Cursor) : Cursor :=
  match c.rest with
  | '#' :: _ => c.skip (fun x => !isBreak x)
  | _ => c

/-- The place after the blanks and the comment that may end a line, when the line does end
there. -/
def endOfLine? (c : Cursor) : Option Cursor :=
  let c := (c.skip isSpace).skipComment
  if breakNext c.rest then some c.skipBreak else none

end Cursor

end Handover.Yaml
