import Handover.Text.Basic
import Handover.Yaml.Plain

/-!
# Flat TOML documents

A settings file gives texts to names, one to a line. Of TOML this is the part without tables,
dotted names and values of other types; a document outside of it is refused, as it cannot be a
settings file in any case.
-/

namespace Handover.Toml

/-- Why a text is not a flat document. -/
inductive Fault where
  | badName
  | badValue
  | unclosed
  | character
  | escape
  | lineEnd
  | repeatedName (name : String)
  deriving DecidableEq, Repr

def Fault.message : Fault → String
  | .badName => "invalid key"
  | .badValue => "invalid value, expected a string"
  | .unclosed => "invalid string, expected its end"
  | .character => "invalid character"
  | .escape => "invalid escape sequence"
  | .lineEnd => "expected the end of the line"
  | .repeatedName name => s!"duplicate key '{name}'"

/-! ## Characters -/

def isSpace (c : Char) : Bool := c = ' ' || c = '\t'

/-- A character that may stand in a comment or a quoted text. -/
def isPlain (c : Char) : Bool := c = '\t' || (0x20 ≤ c.toNat && c.toNat ≠ 0x7F)

def isNameChar (c : Char) : Bool := c.isAlphanum || c = '_' || c = '-'

def lineBreak? : List Char → Option (List Char)
  | '\n' :: cs => some cs
  | '\r' :: '\n' :: cs => some cs
  | _ => none

def skipLines : List Char → List Char
  | '\r' :: '\n' :: cs => skipLines cs
  | c :: cs => if isSpace c || c = '\n' then skipLines cs else c :: cs
  | [] => []

def endLine (cs : List Char) : Except Fault (List Char) :=
  let rest := match cs.dropWhile isSpace with
    | '#' :: rest => rest.dropWhile isPlain
    | rest => rest
  match rest, lineBreak? rest with
  | [], _ => .ok []
  | _, some rest => .ok rest
  | _, none => .error .lineEnd

/-! ## Quoted texts -/

/-- A character given by the number in the next `n` characters. -/
def codePoint (n : Nat) (cs : List Char) : Except Fault (Char × List Char) :=
  match Yaml.Plain.readBase 16 (cs.take n) with
  | some v =>
    if (cs.take n).length = n ∧ v.isValidChar then .ok (Char.ofNat v, cs.drop n)
    else .error .escape
  | none => .error .escape

/-- The character that an escape stands for, and the rest behind it. -/
def escaped : List Char → Except Fault (Char × List Char)
  | 'b' :: cs => .ok ('\u0008', cs)
  | 't' :: cs => .ok ('\t', cs)
  | 'n' :: cs => .ok ('\n', cs)
  | 'f' :: cs => .ok ('\u000c', cs)
  | 'r' :: cs => .ok ('\r', cs)
  | '"' :: cs => .ok ('"', cs)
  | '\\' :: cs => .ok ('\\', cs)
  | 'u' :: cs => codePoint 4 cs
  | 'U' :: cs => codePoint 8 cs
  | _ => .error .escape

/-- How a quoted text is closed and what may stand in it. -/
structure Quoting where
  mark : Char
  escapes : Bool
  multiline : Bool

/-- Behind a backslash at the end of a line, the rest without the blanks that follow. -/
def continued? (cs : List Char) : Option (List Char) :=
  (lineBreak? (cs.dropWhile isSpace)).map skipLines

def marks (mark : Char) (cs : List Char) : Nat := (cs.takeWhile (· = mark)).length

/-- The text up to the closing marks, and the rest behind them. A text over several lines may
hold up to two marks side by side, also right before its end. -/
def quoted (q : Quoting) : Nat → List Char → List Char → Except Fault (String × List Char)
  | 0, _, _ => .error .unclosed
  | _ + 1, _, [] => .error .unclosed
  | fuel + 1, out, c :: cs =>
    if c = q.mark then
      let n := marks q.mark (c :: cs)
      if !q.multiline then .ok (String.ofList out.reverse, cs)
      else if n < 3 then quoted q fuel (List.replicate n c ++ out) ((c :: cs).drop n)
      else
        let within := min (n - 3) 2
        .ok (String.ofList (List.replicate within c ++ out).reverse, (c :: cs).drop (within + 3))
    else if c = '\\' && q.escapes then
      match (if q.multiline then continued? cs else none) with
      | some rest => quoted q fuel out rest
      | none => do
        let (d, rest) ← escaped cs
        quoted q fuel (d :: out) rest
    else if isPlain c then quoted q fuel (c :: out) cs
    else
      match (if q.multiline then lineBreak? (c :: cs) else none) with
      | some rest => quoted q fuel ('\n' :: out) rest
      | none => .error .character

/-- A quoted text of one kind, behind its opening marks. -/
def quotedText (q : Quoting) (cs : List Char) : Except Fault (String × List Char) :=
  let body := if q.multiline then (lineBreak? cs).getD cs else cs
  quoted q (body.length + 1) [] body

def lineText : List Char → Except Fault (String × List Char)
  | '"' :: cs => quotedText ⟨'"', true, false⟩ cs
  | '\'' :: cs => quotedText ⟨'\'', false, false⟩ cs
  | _ => .error .badValue

def text : List Char → Except Fault (String × List Char)
  | '"' :: '"' :: '"' :: cs => quotedText ⟨'"', true, true⟩ cs
  | '\'' :: '\'' :: '\'' :: cs => quotedText ⟨'\'', false, true⟩ cs
  | cs => lineText cs

/-! ## Lines -/

/-- A name, and the rest behind it. -/
def name (cs : List Char) : Except Fault (String × List Char) :=
  let bare := cs.takeWhile isNameChar
  if bare.isEmpty then (lineText cs).mapError fun _ => .badName
  else .ok (String.ofList bare, cs.dropWhile isNameChar)

/-- A name with its text, and the rest behind the line. -/
def entry (cs : List Char) : Except Fault ((String × String) × List Char) := do
  let (name, cs) ← name cs
  match cs.dropWhile isSpace with
  | '=' :: cs =>
    let (value, cs) ← text (cs.dropWhile isSpace)
    return ((name, value), ← endLine cs)
  | _ => .error .badName

def entries : Nat → List Char → Except Fault (List (String × String))
  | 0, _ => .ok []
  | fuel + 1, cs =>
    match skipLines cs with
    | [] => .ok []
    | '#' :: cs => do entries fuel (← endLine ('#' :: cs))
    | cs => do
      let (e, rest) ← entry cs
      return e :: (← entries fuel rest)

def repeated? : List (String × String) → Option String
  | [] => none
  | (name, _) :: es => if es.any (·.1 = name) then some name else repeated? es

def read (s : String) : Except Fault (List (String × String)) := do
  let cs := match s.toList with
    | '\ufeff' :: cs => cs
    | cs => cs
  let es ← entries (cs.length + 1) cs
  match repeated? es with
  | some name => .error (.repeatedName name)
  | none => .ok es

end Handover.Toml
