/-!
# Unsigned decimal numerals

A numeral is a non-empty run of ASCII digits, with one plus sign allowed in front. Leading
zeros are read like any other digit, so a number has many numerals.
-/

namespace Handover.Text

def digitValue (c : Char) : Nat := c.toNat - '0'.toNat

/-- Whether `c` is one of `0` to `9`. -/
def isDigit (c : Char) : Bool := '0' ≤ c && c ≤ '9'

/-- The number that a run of digits denotes, most significant digit first. -/
def digitsValue (cs : List Char) : Nat :=
  cs.foldl (fun n c => 10 * n + digitValue c) 0

def readDigits (cs : List Char) : Option Nat :=
  if !cs.isEmpty && cs.all isDigit then some (digitsValue cs) else none

/-- The number denoted by a numeral, when it does not exceed `limit`. -/
def readUnsigned (limit : Nat) (s : String) : Option Nat :=
  let digits := match s.toList with
    | '+' :: cs => cs
    | cs => cs
  (readDigits digits).filter (· ≤ limit)

def maxWord16 : Nat := 65535

def maxWord64 : Nat := 18446744073709551615

/-- The largest number a 64-bit word with a sign holds. -/
def maxSigned64 : Nat := 9223372036854775807

def maxWord128 : Nat := 340282366920938463463374607431768211455

/-- The largest number a 128-bit word with a sign holds. -/
def maxSigned128 : Nat := 170141183460469231731687303715884105727

end Handover.Text
