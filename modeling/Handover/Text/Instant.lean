import Handover.Text.Blank
import Handover.Text.Numeral

/-!
# Points in time

A point in time is read from a date, a time of day and an offset from UTC, and written in UTC
to the second. Dates follow the Gregorian calendar in both directions of time, by counting days
from the first of March of year 0, so that the leap day ends a year.
-/

namespace Handover.Text

/-- A second in UTC, counted from the first of March of year 0. The leap second that follows
`second` is a second of its own. -/
structure Instant where
  second : Int
  leap : Bool := false
  deriving DecidableEq, Repr, Inhabited

namespace Instant

/-! ## Days -/

/-- A day of the calendar. -/
structure Date where
  year : Int
  month : Nat
  day : Nat
  deriving DecidableEq, Repr

def isLeapYear (year : Int) : Bool := year % 4 = 0 && (year % 100 ≠ 0 || year % 400 = 0)

def daysInMonth (year : Int) (month : Nat) : Nat :=
  if month = 2 then if isLeapYear year then 29 else 28
  else if month = 4 || month = 6 || month = 9 || month = 11 then 30 else 31

/-- Days before a month of a year that starts in March, counting months from zero. -/
def daysBefore (month : Nat) : Nat := (153 * month + 2) / 5

/-- The number of a day, counted from the first of March of year 0. -/
def Date.number (d : Date) : Int :=
  let year := if d.month ≤ 2 then d.year - 1 else d.year
  let month := (d.month + 9) % 12
  365 * year + year / 4 - year / 100 + year / 400 + daysBefore month + d.day - 1

def Date.ofNumber (n : Int) : Date :=
  let era := n / 146097
  let inEra := (n % 146097).toNat
  let yearInEra := (inEra - inEra / 1460 + inEra / 36524 - inEra / 146096) / 365
  let inYear := inEra - (365 * yearInEra + yearInEra / 4 - yearInEra / 100)
  let month := (5 * inYear + 2) / 153
  let day := inYear - daysBefore month + 1
  let year := yearInEra + era * 400
  if month < 10 then ⟨year, month + 3, day⟩ else ⟨year + 1, month - 9, day⟩

/-! ## Reading -/

/-- The number of up to `width` digits behind blanks, and the rest. -/
def number (width : Nat) (cs : List Char) : Option (Nat × List Char) :=
  let cs := cs.dropWhile isBlank
  let digits := (cs.take width).takeWhile isDigit
  (readDigits digits).map (·, cs.drop digits.length)

def behind (c : Char) : List Char → Option (List Char)
  | d :: cs => if d = c then some cs else none
  | [] => none

def separator (c : Char) (cs : List Char) : Option (List Char) :=
  behind c (cs.dropWhile isBlank)

def skipFraction : List Char → Option (List Char)
  | '.' :: c :: cs => if isDigit c then some (cs.dropWhile isDigit) else none
  | '.' :: [] => none
  | cs => some cs

/-- The value of exactly two digits, and the rest. -/
def twoDigits (cs : List Char) : Option (Nat × List Char) :=
  if (cs.take 2).length = 2 then (readDigits (cs.take 2)).map (·, cs.drop 2) else none

def namesUtc (cs : List Char) : Bool :=
  cs = ['Z'] || cs = ['z'] || cs.map Char.toUpper = ['U', 'T', 'C']

/-- An offset from UTC in seconds: a name of UTC, or a sign, hours and minutes. -/
def offset (cs : List Char) : Option Int :=
  if namesUtc cs then some 0
  else
    match cs with
    | sign :: cs => do
      let negative ← if sign = '+' then some false
        else if sign = '-' || sign = '−' then some true else none
      let (hours, cs) ← twoDigits cs
      let (minutes, cs) ← twoDigits (cs.dropWhile fun c => c = ':' || isBlank c)
      if hours < 24 ∧ minutes < 60 ∧ cs = [] then
        let seconds : Int := hours * 3600 + minutes * 60
        some (if negative then -seconds else seconds)
      else none
    | [] => none

/-- The instant that a text such as `2024-02-29T12:00:00+01:00` denotes. Leading zeros may be
left out, and blanks may stand between the parts. -/
def read (s : String) : Option Instant := do
  let (year, cs) ← number 4 s.toList
  let (month, cs) ← number 2 (← separator '-' cs)
  let (day, cs) ← number 2 (← separator '-' cs)
  let cs ← (behind 'T' cs).or ((behind 't' cs).or (behind ' ' cs))
  let (hour, cs) ← number 2 cs
  let (minute, cs) ← number 2 (← separator ':' cs)
  let (second, cs) ← number 2 (← separator ':' cs)
  let shift ← offset ((← skipFraction cs).dropWhile isBlank)
  if 1 ≤ month ∧ month ≤ 12 ∧ 1 ≤ day ∧ day ≤ daysInMonth year month
      ∧ hour < 24 ∧ minute < 60 ∧ second ≤ 60 then
    let date : Date := ⟨year, month, day⟩
    let inDay : Int := hour * 3600 + minute * 60 + min second 59
    some ⟨date.number * 86400 + inDay - shift, second = 60⟩
  else none

/-! ## Writing -/

/-- A number with at least `width` digits. -/
def padded (width n : Nat) : String :=
  let digits := Nat.toDigits 10 n
  String.ofList (List.replicate (width - digits.length) '0' ++ digits)

/-- A year, with its sign when it does not have four digits. -/
def yearText (year : Int) : String :=
  if year < 0 then "-" ++ padded 4 year.natAbs
  else if 9999 < year then "+" ++ padded 4 year.natAbs
  else padded 4 year.natAbs

def write (t : Instant) : String :=
  let date := Date.ofNumber (t.second / 86400)
  let inDay := (t.second % 86400).toNat
  let second := inDay % 60 + if t.leap then 1 else 0
  s!"{yearText date.year}-{padded 2 date.month}-{padded 2 date.day}T"
    ++ s!"{padded 2 (inDay / 3600)}:{padded 2 (inDay / 60 % 60)}:{padded 2 second}Z"

end Instant

end Handover.Text
