import Appraisal.Number.Notation

/-!
# Calendar dates

A date of the proleptic Gregorian calendar between the years 1 and 9999 is the number of its day,
counted from the first day of year 1. Order and distance of dates are those of the numbers.
-/

namespace Appraisal

def lastDay : Nat := 3652059

@[ext]
structure Date where
  day : Nat
  one_le_day : 1 ≤ day := by decide
  day_le : day ≤ lastDay := by decide
  deriving DecidableEq

structure Civil where
  year : Nat
  month : Nat
  day : Nat
  deriving DecidableEq, Repr

namespace Civil

def isLeap (y : Nat) : Bool :=
  y % 4 == 0 && (y % 100 != 0 || y % 400 == 0)

def daysInMonth (y m : Nat) : Nat :=
  if m = 2 then if isLeap y then 29 else 28
  else if m = 4 ∨ m = 6 ∨ m = 9 ∨ m = 11 then 30
  else 31

def daysBeforeYear (y : Nat) : Nat :=
  (y - 1) * 365 + (y - 1) / 4 - (y - 1) / 100 + (y - 1) / 400

def daysBeforeMonth (y : Nat) : Nat → Nat
  | 0 => 0
  | 1 => 0
  | m + 1 => daysBeforeMonth y m + daysInMonth y m

def isValid (c : Civil) : Bool :=
  1 ≤ c.year && c.year ≤ 9999 && 1 ≤ c.month && c.month ≤ 12 && 1 ≤ c.day &&
    c.day ≤ daysInMonth c.year c.month

def dayNumber (c : Civil) : Nat :=
  daysBeforeYear c.year + daysBeforeMonth c.year c.month + c.day

/-- The month and the day of the month of the `n`th day of a year, counted from zero, starting the
search at month `m`. -/
def monthOf (y n : Nat) : Nat → Nat → Nat × Nat
  | 0, m => (m, n + 1)
  | fuel + 1, m =>
      if n < daysInMonth y m then (m, n + 1) else monthOf y (n - daysInMonth y m) fuel (m + 1)

/-- The calendar day with a number. A cycle of four hundred years has 146097 days, a century of it
36524, four years of a century 1461. The last day of a cycle or of a leap year belongs to the year
before the quotient. -/
def ofDayNumber (day : Nat) : Civil :=
  let n := day - 1
  let cycle := n / 146097
  let n := n % 146097
  let century := min (n / 36524) 3
  let n := n - century * 36524
  let four := n / 1461
  let n := n % 1461
  let year := min (n / 365) 3
  let n := n - year * 365
  let y := cycle * 400 + century * 100 + four * 4 + year + 1
  let (m, d) := monthOf y n 11 1
  ⟨y, m, d⟩

end Civil

namespace Date

def ofDay? (n : Int) : Option Date :=
  if h : 1 ≤ n.toNat ∧ n.toNat ≤ lastDay then some ⟨n.toNat, h.1, h.2⟩ else none

def ofCivil? (c : Civil) : Option Date :=
  if c.isValid then ofDay? c.dayNumber else none

def toCivil (d : Date) : Civil :=
  Civil.ofDayNumber d.day

instance : Inhabited Date := ⟨⟨1, by decide, by decide⟩⟩

def newYear2024 : Date := ⟨738886, by decide, by decide⟩

instance : Repr Date := ⟨fun d n => reprPrec d.toCivil n⟩

instance : Ord Date := ⟨fun a b => compare a.day b.day⟩

/-- The date that many days later; there is none outside the years 1 to 9999. -/
def plusDays? (d : Date) (n : Int) : Option Date :=
  ofDay? (d.day + n)

def daysTo (a b : Date) : Int :=
  (b.day : Int) - a.day

def padded (width n : Nat) : List Char :=
  padDigits width (digitsOf n)

def chars (d : Date) : List Char :=
  let c := d.toCivil
  padded 4 c.year ++ '-' :: padded 2 c.month ++ '-' :: padded 2 c.day

def text (d : Date) : String :=
  String.ofList d.chars

end Date

end Appraisal
