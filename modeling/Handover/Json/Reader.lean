import Handover.Json.Value
import Handover.Text.Numeral
import Handover.Yaml.Plain

/-!
# Reading JSON

A recursive descent over the characters. Members with the same name are all kept, in order.
-/

namespace Handover.Json

/-- Why a text is no JSON value. -/
inductive Fault where
  | unexpectedEnd
  | unexpected (c : Char)
  | badEscape
  | controlCharacter
  | badNumber
  | nestedTooDeep
  | trailing
  | invalidType (expected : String)
  deriving DecidableEq, Repr

def Fault.message : Fault → String
  | .unexpectedEnd => "unexpected end of the text"
  | .unexpected c => s!"unexpected character: {c.toNat}"
  | .badEscape => "invalid escape"
  | .controlCharacter => "control character in a quoted text"
  | .badNumber => "invalid number"
  | .nestedTooDeep => "recursion limit exceeded"
  | .trailing => "trailing characters"
  | .invalidType expected => s!"invalid type: expected {expected}"

def isSpace (c : Char) : Bool := c = ' ' || c = '\n' || c = '\r' || c = '\t'

def skipSpace (cs : List Char) : List Char := cs.dropWhile isSpace

def unit? (a b c d : Char) : Option Nat := Yaml.Plain.readBase 16 [a, b, c, d]

/-- The rest of a quoted text behind its opening quote, and what follows its closing quote. A
character outside the basic plane is escaped as a pair of surrogates. -/
def quoted (out : List Char) : List Char → Except Fault (String × List Char)
  | [] => .error .unexpectedEnd
  | '"' :: cs => .ok (String.ofList out.reverse, cs)
  | '\\' :: 'u' :: a :: b :: c :: d :: '\\' :: 'u' :: e :: f :: g :: h :: cs =>
    match unit? a b c d with
    | none => .error .badEscape
    | some m =>
      if 0xD800 ≤ m && m ≤ 0xDBFF then
        match unit? e f g h with
        | some n =>
          if 0xDC00 ≤ n && n ≤ 0xDFFF then
            quoted (Char.ofNat (0x10000 + (m - 0xD800) * 0x400 + (n - 0xDC00)) :: out) cs
          else .error .badEscape
        | none => .error .badEscape
      else if 0xDC00 ≤ m && m ≤ 0xDFFF then .error .badEscape
      else quoted (Char.ofNat m :: out) ('\\' :: 'u' :: e :: f :: g :: h :: cs)
  | '\\' :: 'u' :: a :: b :: c :: d :: cs =>
    match unit? a b c d with
    | none => .error .badEscape
    | some m =>
      if 0xD800 ≤ m && m ≤ 0xDFFF then .error .badEscape else quoted (Char.ofNat m :: out) cs
  | '\\' :: e :: cs =>
    match e with
    | '"' => quoted ('"' :: out) cs
    | '\\' => quoted ('\\' :: out) cs
    | '/' => quoted ('/' :: out) cs
    | 'b' => quoted ('\u0008' :: out) cs
    | 'f' => quoted ('\u000c' :: out) cs
    | 'n' => quoted ('\n' :: out) cs
    | 'r' => quoted ('\r' :: out) cs
    | 't' => quoted ('\t' :: out) cs
    | _ => .error .badEscape
  | c :: cs => if c.toNat < 0x20 then .error .controlCharacter else quoted (c :: out) cs

/-! ## Numbers -/

/-- The fraction and the exponent of a number, which may both be missing. -/
def numberTail (cs : List Char) : Option (List Char × List Char) := do
  let (fraction, cs) ← match cs with
    | '.' :: more =>
      let digits := more.takeWhile Text.isDigit
      if digits.isEmpty then none else some ('.' :: digits, more.dropWhile Text.isDigit)
    | _ => some ([], cs)
  match cs with
  | e :: more =>
    if e = 'e' || e = 'E' then
      let (sign, more) := match more with
        | '+' :: more => (['+'], more)
        | '-' :: more => (['-'], more)
        | more => ([], more)
      let digits := more.takeWhile Text.isDigit
      if digits.isEmpty then none
      else some (fraction ++ e :: sign ++ digits, more.dropWhile Text.isDigit)
    else some (fraction, cs)
  | [] => some (fraction, cs)

/-- A number, whole if it has neither fraction nor exponent and fits 64 bits. -/
def number (cs : List Char) : Except Fault (Json × List Char) :=
  let (negative, body) := match cs with
    | '-' :: more => (true, more)
    | more => (false, more)
  let digits := body.takeWhile Text.isDigit
  if digits.isEmpty || (1 < digits.length && digits.head? == some '0') then .error .badNumber
  else
    match numberTail (body.dropWhile Text.isDigit) with
    | none => .error .badNumber
    | some (tail, rest) =>
      let n := Text.digitsValue digits
      let spelling := String.ofList ((if negative then ['-'] else []) ++ digits ++ tail)
      let fits := if negative then n ≠ 0 ∧ n ≤ Text.maxSigned64 + 1 else n ≤ Text.maxWord64
      if !tail.isEmpty ∨ ¬ fits then .ok (.real spelling, rest)
      else .ok (.int (if negative then -(n : Int) else n), rest)

/-! ## Values -/

def expect (c : Char) : List Char → Except Fault (List Char)
  | d :: cs => if d = c then .ok cs else .error (.unexpected d)
  | [] => .error .unexpectedEnd

def expectWord : List Char → List Char → Except Fault (List Char)
  | [], cs => .ok cs
  | w :: ws, cs => do expectWord ws (← expect w cs)

mutual

def value (fuel : Nat) (cs : List Char) : Except Fault (Json × List Char) :=
  match fuel with
  | 0 => .error .nestedTooDeep
  | fuel + 1 =>
    match skipSpace cs with
    | [] => .error .unexpectedEnd
    | 'n' :: cs => do .ok (.null, ← expectWord ['u', 'l', 'l'] cs)
    | 't' :: cs => do .ok (.bool true, ← expectWord ['r', 'u', 'e'] cs)
    | 'f' :: cs => do .ok (.bool false, ← expectWord ['a', 'l', 's', 'e'] cs)
    | '"' :: cs => do
      let (s, cs) ← quoted [] cs
      .ok (.text s, cs)
    | '[' :: cs =>
      match skipSpace cs with
      | ']' :: cs => .ok (.array [], cs)
      | cs => do
        let (items, cs) ← items fuel cs
        .ok (.array items, cs)
    | '{' :: cs =>
      match skipSpace cs with
      | '}' :: cs => .ok (.object [], cs)
      | cs => do
        let (members, cs) ← members fuel cs
        .ok (.object members, cs)
    | c :: cs => if c = '-' || Text.isDigit c then number (c :: cs) else .error (.unexpected c)

def items (fuel : Nat) (cs : List Char) : Except Fault (List Json × List Char) :=
  match fuel with
  | 0 => .error .nestedTooDeep
  | fuel + 1 => do
    let (x, cs) ← value fuel cs
    match skipSpace cs with
    | ',' :: cs => do
      let (xs, cs) ← items fuel cs
      .ok (x :: xs, cs)
    | ']' :: cs => .ok ([x], cs)
    | c :: _ => .error (.unexpected c)
    | [] => .error .unexpectedEnd

def members (fuel : Nat) (cs : List Char) : Except Fault (List (String × Json) × List Char) :=
  match fuel with
  | 0 => .error .nestedTooDeep
  | fuel + 1 => do
    let (name, cs) ← quoted [] (← expect '"' (skipSpace cs))
    let (x, cs) ← value fuel (← expect ':' (skipSpace cs))
    match skipSpace cs with
    | ',' :: cs => do
      let (xs, cs) ← members fuel cs
      .ok ((name, x) :: xs, cs)
    | '}' :: cs => .ok ([(name, x)], cs)
    | c :: _ => .error (.unexpected c)
    | [] => .error .unexpectedEnd

end

def read (s : String) : Except Fault Json := do
  let cs := s.toList
  let (j, rest) ← value (2 * cs.length + 2) cs
  if (skipSpace rest).isEmpty then .ok j else .error .trailing

end Handover.Json
