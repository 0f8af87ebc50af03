import Handover.Yaml.Cursor
import Handover.Yaml.Plain

/-!
# How a scalar is written

A text is written plain when that reads back as the same text, in single quotes when it would
be taken for something else or has indicators at the wrong places, as a literal block when it
has line feeds, and in double quotes when none of these can carry it.
-/

namespace Handover.Yaml

/-- The ways to write a scalar. -/
inductive Style where
  | plain
  | single
  | double
  | literal
  deriving DecidableEq, Repr

/-! ## What a text allows -/

def isPrintable (c : Char) : Bool :=
  let n := c.toNat
  n = 0x0A || (0x20 ≤ n && n ≤ 0x7E) || (0xA0 ≤ n && n ≤ 0xD7FF)
    || (0xE000 ≤ n && n ≤ 0xFFFD && n ≠ 0xFEFF) || 0x10000 ≤ n

/-- Whether a character cannot start a plain scalar, whatever follows. -/
def isOpeningIndicator (c : Char) : Bool :=
  c ∈ ['#', ',', '[', ']', '{', '}', '&', '*', '!', '|', '>', '\'', '"', '%', '@', '\x60']

def startsLikeMarker : List Char → Bool
  | '-' :: '-' :: '-' :: _ => true
  | '.' :: '.' :: '.' :: _ => true
  | _ => false

/-- Whether an end of the text, a blank, a break or a NUL comes next. -/
def gapNext : List Char → Bool
  | [] => true
  | c :: _ => isSpace c || isBreak c || c = '\u0000'

/-- Whether an indicator stands behind the first character: a colon before a gap or a hash
after one. -/
def innerIndicator (afterGap : Bool) : List Char → Bool
  | [] => false
  | c :: cs =>
    (c = ':' && gapNext cs) || (c = '#' && afterGap)
      || innerIndicator (isSpace c || isBreak c || c = '\u0000') cs

def hasIndicator : List Char → Bool
  | [] => false
  | c :: cs =>
    startsLikeMarker (c :: cs) || isOpeningIndicator c
      || ((c = '?' || c = ':' || c = '-') && gapNext cs)
      || innerIndicator (isSpace c || isBreak c || c = '\u0000') cs

/-- Whether a space stands next to a line break: after one, or before one. -/
def besides (p q : Char → Bool) : List Char → Bool
  | c :: d :: cs => (p c && q d) || besides p q (d :: cs)
  | _ => false

/-- What a text allows besides double quotes. -/
structure Allowed where
  multiline : Bool
  plain : Bool
  single : Bool
  literal : Bool
  deriving DecidableEq, Repr

/-- What a text that is not empty allows. -/
def allowed (cs : List Char) : Allowed :=
  let space (c : Char) : Bool := c = ' '
  let multiline := cs.any isBreak
  let atEnds := cs.head?.any (fun c => space c || isBreak c)
    || cs.getLast?.any (fun c => space c || isBreak c)
  let breakSpace := besides isBreak space cs
  let unfit := besides space isBreak cs || !cs.all isPrintable
  { multiline
    plain := !(atEnds || breakSpace || unfit || multiline || hasIndicator cs)
    single := !(breakSpace || unfit)
    literal := !(cs.getLast?.any space || unfit) }

/-- Whether a text has to be marked as text: it would stand for something else, or is digits
padded with zeros. -/
def needsQuotes (s : String) : Bool := Plain.ofScalar s ≠ .text || Plain.isPadded s

/-- The style of a text, as a key on one line or elsewhere. -/
def styleOf (simpleKey : Bool) (s : String) : Style :=
  let cs := s.toList
  if cs.isEmpty then .single
  else
    let a := allowed cs
    if '\n' ∈ cs then
      if a.literal && !simpleKey then .literal else .double
    else if a.multiline && simpleKey then .double
    else if a.plain && !needsQuotes s then .plain
    else if a.single then .single
    else .double

/-! ## Quoting -/

/-- A digit of base 16, in upper case. -/
def upperHex (n : Nat) : Char := if n < 10 then Char.ofNat (48 + n) else Char.ofNat (55 + n)

/-- The last `width` digits of a number in base 16. -/
def hexDigits : Nat → Nat → List Char
  | 0, _ => []
  | width + 1, n => hexDigits width (n / 16) ++ [upperHex (n % 16)]

/-- The escape sequence of a character, behind the backslash. -/
def escapeOf (c : Char) : List Char :=
  match c.toNat with
  | 0x00 => ['0']
  | 0x07 => ['a']
  | 0x08 => ['b']
  | 0x09 => ['t']
  | 0x0A => ['n']
  | 0x0B => ['v']
  | 0x0C => ['f']
  | 0x0D => ['r']
  | 0x1B => ['e']
  | 0x22 => ['"']
  | 0x5C => ['\\']
  | 0x85 => ['N']
  | 0xA0 => ['_']
  | 0x2028 => ['L']
  | 0x2029 => ['P']
  | n =>
    if n ≤ 0xFF then 'x' :: hexDigits 2 n
    else if n ≤ 0xFFFF then 'u' :: hexDigits 4 n
    else 'U' :: hexDigits 8 n

def doubleQuoted (cs : List Char) : List Char :=
  '"' :: cs.flatMap (fun c =>
    if !isPrintable c || isBreak c || c = '"' || c = '\\' then '\\' :: escapeOf c else [c]) ++ ['"']

/-- `n` spaces. -/
def spaces (n : Nat) : List Char := List.replicate n ' '

/-- The inside of single quotes: a quote is written twice, and the text goes on at the
indentation after a line break. -/
def singleInside (indent : Nat) (afterBreak : Bool) : List Char → List Char
  | [] => if afterBreak then spaces indent else []
  | c :: cs =>
    if isBreak c then c :: singleInside indent true cs
    else
      (if afterBreak then spaces indent else []) ++
        (if c = '\'' then ['\'', '\''] else [c]) ++ singleInside indent false cs

def singleQuoted (indent : Nat) (cs : List Char) : List Char :=
  '\'' :: singleInside indent false cs ++ ['\'']

/-! ## Literal blocks -/

/-- The indentation indicator, needed when the text starts with a space or break. -/
def indentHint (cs : List Char) : List Char :=
  if cs.head?.any (fun c => c = ' ' || isBreak c) then ['2'] else []

/-- The chomping indicator: what the reader has to do about breaks at the end. -/
def chompHint (cs : List Char) : List Char :=
  match cs.reverse with
  | [] => ['-']
  | [c] => if isBreak c then ['+'] else ['-']
  | c :: d :: _ => if !isBreak c then ['-'] else if isBreak d then ['+'] else []

/-- The lines of a literal block, each with text at the indentation. -/
def literalLines (indent : Nat) (afterBreak : Bool) : List Char → List Char
  | [] => []
  | c :: cs =>
    if isBreak c then c :: literalLines indent true cs
    else (if afterBreak then spaces indent else []) ++ c :: literalLines indent false cs

def literalBlock (indent : Nat) (cs : List Char) : List Char :=
  '|' :: indentHint cs ++ chompHint cs ++ '\n' :: literalLines indent true cs

/-- The written form of a text, with its further lines at an indentation. -/
def writeText (simpleKey : Bool) (indent : Nat) (s : String) : List Char :=
  let cs := s.toList
  match styleOf simpleKey s with
  | .plain => cs
  | .single => singleQuoted indent cs
  | .double => doubleQuoted cs
  | .literal => literalBlock indent cs

/-! ## Numbers -/

def decimalDigits (n : Nat) : List Char := Nat.toDigits 10 n

/-- The written form of the digits and exponent of a finite number: positional between
`10 ^ -5` and `10 ^ 16`, with a point always, and with an exponent otherwise. -/
def positional (d : Scientific) : List Char :=
  let digits := decimalDigits d.digits
  let length : Int := digits.length
  let point := length + d.exponent
  if d.digits = 0 then ['0', '.', '0']
  else if 0 ≤ d.exponent && point ≤ 16 then
    digits ++ List.replicate d.exponent.toNat '0' ++ ['.', '0']
  else if 0 < point && point ≤ 16 then
    digits.take point.toNat ++ '.' :: digits.drop point.toNat
  else if -5 < point && point ≤ 0 then
    ['0', '.'] ++ List.replicate (-point).toNat '0' ++ digits
  else
    let e := point - 1
    let exponent := (if e < 0 then ['-'] else []) ++ decimalDigits e.natAbs
    match digits with
    | [c] => c :: 'e' :: exponent
    | c :: cs => c :: '.' :: cs ++ 'e' :: exponent
    | [] => []

def writeReal : Binary64 → List Char
  | .nan => ['.', 'n', 'a', 'n']
  | .infinite negative => (if negative then ['-'] else []) ++ ['.', 'i', 'n', 'f']
  | .finite negative m e => (if negative then ['-'] else []) ++ positional (Binary64.shortest m e)

def writeNumber : Number → List Char
  | .int i => (toString i).toList
  | .real x => writeReal x

end Handover.Yaml
