import Handover.Yaml.Folding
import Handover.Yaml.Plain

/-!
# Plain and quoted scalars

Each reader walks over the characters with the text so far in reverse and the gap since the
last visible character, and answers the text and the place after the scalar.
-/

namespace Handover.Yaml

/-! ## Plain scalars -/

/-- Where a plain scalar stands: the indentation it needs, and whether it is a flow item. -/
structure PlainContext where
  indent : Nat
  inFlow : Bool
  deriving DecidableEq, Repr

/-- A scalar that was read: its text, whether the blanks after it held a line break, and the
place after those. -/
structure PlainScalar where
  text : String
  brokeLine : Bool
  stop : Cursor
  deriving Repr

/-- Whether a gap that has just ended also ends the scalar: by a lack of indentation, a
document marker or a comment. -/
def gapEnds (ctx : PlainContext) (gap : Gap) (m : Mark) (cs : List Char) : Bool :=
  !gap.isEmpty &&
    ((!ctx.inFlow && m.column < ctx.indent) || (m.column = 0 && markerNext cs)
      || cs.head? == some '#')

def plainEnds (ctx : PlainContext) (c : Char) (cs : List Char) : Bool :=
  (c = ':' && blankNext cs) || (ctx.inFlow && isFlowMark c)

/-- Whether a colon stands in front of a mark that a flow item cannot start with. -/
def badColon (ctx : PlainContext) (c : Char) (cs : List Char) : Bool :=
  ctx.inFlow && c = ':' &&
    match cs with
    | d :: _ => isFlowMark d || d = '?'
    | [] => false

def plainFrom (ctx : PlainContext) (out : List Char) (gap : Gap) (m : Mark) :
    List Char → Except Fault PlainScalar
  | [] => .ok ⟨String.ofList out.reverse, gap.brokeLine, ⟨m, []⟩⟩
  | '\r' :: '\n' :: cs => plainFrom ctx out (gap.newLine '\n') (m.newLine 2) cs
  | c :: cs =>
    if isBreak c then plainFrom ctx out (gap.newLine c) (m.newLine 1) cs
    else if isSpace c then
      if gap.brokeLine && c = '\t' && m.column < ctx.indent then .error .tabInIndentation
      else plainFrom ctx out (gap.blank c) m.next cs
    else if gapEnds ctx gap m (c :: cs) then
      .ok ⟨String.ofList out.reverse, gap.brokeLine, ⟨m, c :: cs⟩⟩
    else if badColon ctx c cs then .error .unexpectedColon
    else if plainEnds ctx c cs then
      .ok ⟨String.ofList out.reverse, gap.brokeLine, ⟨m, c :: cs⟩⟩
    else plainFrom ctx (c :: gap.fill out) .none m.next cs

/-! ## Single-quoted scalars -/

/-- Read a single-quoted scalar on from a place after its opening quote. -/
def singleFrom (out : List Char) (gap : Gap) (m : Mark) :
    List Char → Except Fault (String × Cursor)
  | [] => .error .unclosedQuote
  | '\r' :: '\n' :: cs => singleFrom out (gap.newLine '\n') (m.newLine 2) cs
  | '\'' :: '\'' :: cs => singleFrom ('\'' :: gap.fill out) .none (m.advance 2) cs
  | c :: cs =>
    if isBreak c then singleFrom out (gap.newLine c) (m.newLine 1) cs
    else if isSpace c then singleFrom out (gap.blank c) m.next cs
    else if m.column = 0 && markerNext (c :: cs) then .error .markerInQuote
    else if c = '\'' then .ok (String.ofList (gap.fill out).reverse, ⟨m.next, cs⟩)
    else singleFrom (c :: gap.fill out) .none m.next cs

/-! ## Double-quoted scalars -/

def escape? : Char → Option Char
  | '0' => some '\u0000'
  | 'a' => some '\u0007'
  | 'b' => some '\u0008'
  | 't' => some '\t'
  | '\t' => some '\t'
  | 'n' => some '\n'
  | 'v' => some '\u000b'
  | 'f' => some '\u000c'
  | 'r' => some '\r'
  | 'e' => some '\u001b'
  | ' ' => some ' '
  | '"' => some '"'
  | '/' => some '/'
  | '\\' => some '\\'
  | 'N' => some '\u0085'
  | '_' => some '\u00a0'
  | 'L' => some '\u2028'
  | 'P' => some '\u2029'
  | _ => none

/-- The character with the code point that some digits of base 16 denote. -/
def hexChar? (digits : List Char) : Option Char :=
  (Plain.readBase 16 digits).bind fun n => if n.isValidChar then some (Char.ofNat n) else none

/-- Read a double-quoted scalar on from a place after its opening quote. -/
def doubleFrom (out : List Char) (gap : Gap) (m : Mark) :
    List Char → Except Fault (String × Cursor)
  | [] => .error .unclosedQuote
  | '\r' :: '\n' :: cs => doubleFrom out (gap.newLine '\n') (m.newLine 2) cs
  | '\\' :: '\r' :: '\n' :: cs =>
    doubleFrom (gap.fill out) (.lines none []) ((m.advance 1).newLine 2) cs
  | '\\' :: 'x' :: a :: b :: cs =>
    match hexChar? [a, b] with
    | some c => doubleFrom (c :: gap.fill out) .none (m.advance 4) cs
    | none => .error .badEscape
  | '\\' :: 'u' :: a :: b :: c :: d :: cs =>
    match hexChar? [a, b, c, d] with
    | some x => doubleFrom (x :: gap.fill out) .none (m.advance 6) cs
    | none => .error .badEscape
  | '\\' :: 'U' :: a :: b :: c :: d :: e :: f :: g :: h :: cs =>
    match hexChar? [a, b, c, d, e, f, g, h] with
    | some x => doubleFrom (x :: gap.fill out) .none (m.advance 10) cs
    | none => .error .badEscape
  | '\\' :: e :: cs =>
    if isBreak e then doubleFrom (gap.fill out) (.lines none []) ((m.advance 1).newLine 1) cs
    else
      match escape? e with
      | some c => doubleFrom (c :: gap.fill out) .none (m.advance 2) cs
      | none => .error .badEscape
  | c :: cs =>
    if isBreak c then doubleFrom out (gap.newLine c) (m.newLine 1) cs
    else if isSpace c then doubleFrom out (gap.blank c) m.next cs
    else if m.column = 0 && markerNext (c :: cs) then .error .markerInQuote
    else if c = '"' then .ok (String.ofList (gap.fill out).reverse, ⟨m.next, cs⟩)
    else if c = '\\' then .error .badEscape
    else doubleFrom (c :: gap.fill out) .none m.next cs

end Handover.Yaml
