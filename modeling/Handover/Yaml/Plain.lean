import Handover.Text.Numeral
import Handover.Yaml.Value

/-!
# What a plain scalar stands for

An unquoted scalar is null, a truth value, a number or text. Whole numbers may be written in
base 16, 8 and 2; a decimal numeral of several digits that starts with zero is text. The
same rule decides when a text has to be quoted: exactly when it would stand for something
else.
-/

namespace Handover.Yaml

/-- What an unquoted scalar stands for. -/
inductive Plain where
  | null
  | bool (b : Bool)
  | int (i : Int)
  /-- A whole number beyond 64 bits, which no value can hold. -/
  | oversized
  | real (x : Binary64)
  | text
  deriving DecidableEq, Repr

namespace Plain

/-! ## Whole numbers -/

def hexValue? (c : Char) : Option Nat :=
  if '0' ≤ c && c ≤ '9' then some (c.toNat - 48)
  else if 'a' ≤ c && c ≤ 'f' then some (c.toNat - 87)
  else if 'A' ≤ c && c ≤ 'F' then some (c.toNat - 55)
  else none

/-- The number denoted by a non-empty run of digits of a base. -/
def readBase (base : Nat) (cs : List Char) : Option Nat :=
  if cs.isEmpty then none
  else cs.foldlM (fun n c => ((hexValue? c).filter (· < base)).map (base * n + ·)) 0

/-- Whether digits start with a zero that is not alone: such a numeral is text. -/
def paddedWithZero (cs : List Char) : Bool :=
  1 < cs.length && cs.head? == some '0' && cs.all Text.isDigit

def readMagnitude : List Char → Option Nat
  | '0' :: 'x' :: cs => readBase 16 cs
  | '0' :: 'o' :: cs => readBase 8 cs
  | '0' :: 'b' :: cs => readBase 2 cs
  | cs => if paddedWithZero cs then none else readBase 10 cs

/-- A scalar that denotes a whole number of at most 128 bits. -/
def readInt (cs : List Char) : Option Plain :=
  match cs with
  | '-' :: digits =>
    (readMagnitude digits).bind fun n =>
      if n ≤ Text.maxSigned64 + 1 then some (.int (-(n : Int)))
      else if n ≤ Text.maxSigned128 + 1 then some .oversized
      else none
  | _ =>
    let digits := match cs with
      | '+' :: digits => digits
      | digits => digits
    (readMagnitude digits).bind fun n =>
      if n ≤ Text.maxWord64 then some (.int n)
      else if n ≤ Text.maxWord128 then some .oversized
      else none

/-! ## Real numbers -/

/-- The exponent that ends a real numeral; nothing at all is the exponent zero. -/
def readExponent : List Char → Option Int
  | [] => some 0
  | e :: cs =>
    if e = 'e' || e = 'E' then
      match cs with
      | '-' :: digits => (Text.readDigits digits).map fun n => -(n : Int)
      | '+' :: digits => (Text.readDigits digits).map fun n => (n : Int)
      | digits => (Text.readDigits digits).map fun n => (n : Int)
    else none

/-- An unsigned real numeral: digits with at most one point among or beside them, and an
exponent. -/
def readDecimal (cs : List Char) : Option Scientific :=
  let whole := cs.takeWhile Text.isDigit
  let (fraction, tail) := match cs.dropWhile Text.isDigit with
    | '.' :: more => (more.takeWhile Text.isDigit, more.dropWhile Text.isDigit)
    | more => ([], more)
  if whole.isEmpty && fraction.isEmpty then none
  else (readExponent tail).map fun e =>
    ⟨Text.digitsValue (whole ++ fraction), e - fraction.length⟩

/-- The finite number nearest to a real numeral with a sign. -/
def readFinite (negative : Bool) (cs : List Char) : Option Binary64 :=
  (readDecimal cs).bind fun d =>
    match Binary64.ofDecimal negative d with
    | .finite n m e => some (.finite n m e)
    | _ => none

def readReal (s : String) : Option Binary64 :=
  if s = ".inf" || s = ".Inf" || s = ".INF" || s = "+.inf" || s = "+.Inf" || s = "+.INF" then
    some (.infinite false)
  else if s = "-.inf" || s = "-.Inf" || s = "-.INF" then some (.infinite true)
  else if s = ".nan" || s = ".NaN" || s = ".NAN" then some .nan
  else
    match s.toList with
    | '+' :: cs => readFinite false cs
    | '-' :: cs => readFinite true cs
    | cs => readFinite false cs

/-! ## The rule -/

def readBool (s : String) : Option Bool :=
  if s = "true" || s = "True" || s = "TRUE" then some true
  else if s = "false" || s = "False" || s = "FALSE" then some false
  else none

def isNull (s : String) : Bool :=
  s = "null" || s = "Null" || s = "NULL" || s = "~"

/-- Whether a scalar is digits, signed or not, padded with zeros. -/
def isPadded (s : String) : Bool :=
  match s.toList with
  | '-' :: cs => paddedWithZero cs
  | '+' :: cs => paddedWithZero cs
  | cs => paddedWithZero cs

def ofScalar (s : String) : Plain :=
  if s = "" || isNull s then .null
  else
    match readBool s with
    | some b => .bool b
    | none =>
      match readInt s.toList with
      | some n => n
      | none =>
        if isPadded s then .text
        else
          match readReal s with
          | some x => .real x
          | none => .text

def value? (s : String) : Option Value :=
  match ofScalar s with
  | .null => some .null
  | .bool b => some (.bool b)
  | .int i => some (.number (.int i))
  | .oversized => none
  | .real x => some (.number (.real x))
  | .text => some (.text s)

end Plain

end Handover.Yaml
