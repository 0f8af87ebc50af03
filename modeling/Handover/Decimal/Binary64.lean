/-!
# Binary floating point numbers of 64 bits

A number is a sign, a mantissa and a power of two, or infinite, or no number at all. Decimal
texts are rounded to the nearest such number, and a number is written with the fewest decimal
digits that are read back as the same number; both are exact arithmetic on `Nat`.
-/

namespace Handover

/-- A floating point number with a mantissa of 53 bits and eleven bits of exponent. -/
inductive Binary64 where
  | nan
  | infinite (negative : Bool)
  /-- The number `± mantissa * 2 ^ exponent`. -/
  | finite (negative : Bool) (mantissa : Nat) (exponent : Int)
  deriving DecidableEq, Repr, Inhabited

/-- Decimal digits with a decimal exponent: `digits * 10 ^ exponent`. -/
structure Scientific where
  digits : Nat
  exponent : Int
  deriving DecidableEq, Repr

namespace Binary64

/-- Two to the power of the number of bits of a mantissa. -/
def mantissaBound : Nat := 9007199254740992

def leastExponent : Int := -1074

def greatestExponent : Int := 971

/-- The quotient rounded to the nearest number, a half going to the even neighbour. -/
def roundDiv (num den : Nat) : Nat :=
  let q := num / den
  let r := num % den
  if 2 * r > den || (2 * r = den && q % 2 = 1) then q + 1 else q

/-- `num / den` as a fraction divided by `base ^ e`. -/
def scaleDown (base : Nat) (e : Int) (num den : Nat) : Nat × Nat :=
  if 0 ≤ e then (num, den * Nat.pow base e.toNat) else (num * Nat.pow base (-e).toNat, den)

def ofFraction (negative : Bool) (num den : Nat) : Binary64 :=
  let size : Int := (Nat.log2 num : Int) - (Nat.log2 den : Int)
  let guess := max leastExponent (size - 53)
  let (n, d) := scaleDown 2 guess num den
  let exponent := if n / d ≥ mantissaBound then guess + 1 else guess
  let (n, d) := scaleDown 2 exponent num den
  let mantissa := roundDiv n d
  let (mantissa, exponent) :=
    if mantissa = mantissaBound then (mantissaBound / 2, exponent + 1) else (mantissa, exponent)
  if exponent > greatestExponent then .infinite negative
  else .finite negative mantissa exponent

/-- The number nearest to a decimal. Exponents far outside the range of the numbers are
decided by size alone. -/
def ofDecimal (negative : Bool) (d : Scientific) : Binary64 :=
  if d.digits = 0 then .finite negative 0 leastExponent
  else
    let size : Int := ((Nat.log2 d.digits * 30103 / 100000 : Nat) : Int) + d.exponent
    if size > 400 then .infinite negative
    else if size < -400 then .finite negative 0 leastExponent
    else if 0 ≤ d.exponent then
      ofFraction negative (d.digits * Nat.pow 10 d.exponent.toNat) 1
    else
      ofFraction negative d.digits (Nat.pow 10 (-d.exponent).toNat)

/-! ## The shortest decimal that is read back -/

/-- The power of ten with `10 ^ e ≤ num / den < 10 ^ (e + 1)`, for a positive fraction. -/
def decade (num den : Nat) : Int :=
  if den ≤ num then ((Nat.toDigits 10 (num / den)).length : Int) - 1
  else
    let k := (Nat.toDigits 10 (den / num)).length
    if num * Nat.pow 10 (k - 1) ≥ den then -((k : Int) - 1) else -(k : Int)

/-- The reals that are rounded to a given number, as fractions over one denominator. -/
structure Interval where
  low : Nat
  middle : Nat
  high : Nat
  den : Nat
  closed : Bool

/-- The reals that are rounded to `mantissa * 2 ^ exponent`: up to half the distance to each
neighbour, the ends included when the mantissa is even. -/
def interval (mantissa : Nat) (exponent : Int) : Interval :=
  let below := if mantissa = mantissaBound / 2 && exponent > leastExponent then 1 else 2
  let e := exponent - 2
  let up (n : Nat) : Nat := if 0 ≤ e then n * Nat.pow 2 e.toNat else n
  { low := up (4 * mantissa - below), middle := up (4 * mantissa), high := up (4 * mantissa + 2)
    den := if 0 ≤ e then 1 else Nat.pow 2 (-e).toNat
    closed := mantissa % 2 = 0 }

/-- Whether `digits * 10 ^ e` lies in the interval. -/
def Interval.admits (i : Interval) (digits : Nat) (e : Int) : Bool :=
  let (n, d) := if 0 ≤ e then (digits * Nat.pow 10 e.toNat, 1) else (digits, Nat.pow 10 (-e).toNat)
  let x := n * i.den
  if i.closed then i.low * d ≤ x && x ≤ i.high * d else i.low * d < x && x < i.high * d

/-- The grid point nearest to the middle among those of `10 ^ e` next to it that lie in the
interval. -/
def Interval.onGrid? (i : Interval) (e : Int) : Option Nat :=
  let (n, d) := scaleDown 10 e i.middle i.den
  let q := n / d
  let r := n % d
  match i.admits q e, i.admits (q + 1) e with
  | false, false => none
  | true, false => some q
  | false, true => some (q + 1)
  | true, true => if 2 * r > d || (2 * r = d && q % 2 = 1) then some (q + 1) else some q

def Scientific.trim : Nat → Scientific → Scientific
  | 0, d => d
  | fuel + 1, d =>
    if d.digits ≠ 0 && d.digits % 10 = 0 then trim fuel ⟨d.digits / 10, d.exponent + 1⟩ else d

/-- The first grid with a point in the interval, from coarse to fine. -/
def Interval.search (i : Interval) : Nat → Int → Scientific
  | 0, e => ⟨(scaleDown 10 e i.middle i.den).1 / (scaleDown 10 e i.middle i.den).2, e⟩
  | fuel + 1, e =>
    match i.onGrid? e with
    | some digits => Scientific.trim 20 ⟨digits, e⟩
    | none => search i fuel (e - 1)

/-- The fewest digits that are read back as `mantissa * 2 ^ exponent`, and of those the nearest. -/
def shortest (mantissa : Nat) (exponent : Int) : Scientific :=
  if mantissa = 0 then ⟨0, 0⟩
  else
    let i := interval mantissa exponent
    i.search 17 (decade i.middle i.den)

/-- Whether two numbers count as one when mapping keys are compared: not-a-number is one value,
and the two zeros are equal. -/
def agrees : Binary64 → Binary64 → Bool
  | .finite _ 0 _, .finite _ 0 _ => true
  | x, y => x = y

end Binary64

end Handover
