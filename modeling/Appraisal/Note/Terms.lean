import Appraisal.Note.Token
import Appraisal.Number.Notation
import Appraisal.Number.Round

/-!
# Terms of a loan

The interest rate, the period, the target duration and the risk that a note declares. Durations count
years of 365 days, months of 30 days, weeks and days; a fraction of a day is cut off.
-/

namespace Appraisal.Note

open Text

def interestLabel : Text := "Int:"
def periodLabel : Text := "Per:"
def targetLabel : Text := "Target:"
def riskLabel : Text := "Risk:"

def unitDays? (unit : List Char) : Option Nat :=
  if unit = ['y', 'r'] ∨ unit = ['y'] then some 365
  else if unit = ['m', 'o'] ∨ unit = ['m'] then some 30
  else if unit = ['w'] then some 7
  else if unit = ['d'] then some 1
  else none

/-- The count in front of a unit, and the unit. A count has no sign and no exponent. -/
def spanCount (s : List Char) : Option (Numeral × List Char) :=
  let (whole, s) := Numeral.spanDigits s
  let (fraction, s) :=
    match s with
    | '.' :: s => Numeral.spanDigits s
    | s => ([], s)
  if whole.isEmpty && fraction.isEmpty then none else some (⟨false, whole, fraction, 0⟩, s)

def duration? (s : List Char) : Option (Numeral × Nat) :=
  match spanCount (trimmed s) with
  | none => none
  | some (count, unit) => (unitDays? (lowerAscii unit)).map (fun days => (count, days))

/-- The whole days of a duration; any other text counts as none. A count too large for a double has
no number of days. -/
def days (t : Text) : Except NotIntegral Int :=
  match (chars? t.toList).bind duration? with
  | none => .ok 0
  | some (count, unit) => truncateInt (Binary.scale count.toFloat unit 1)

inductive Risk
  | high
  | medium
  | low
  | unknown
  deriving DecidableEq, Repr

namespace Risk

def name : Risk → String
  | high => "high"
  | medium => "medium"
  | low => "low"
  | unknown => "unknown"

/-- A level is given by its name or its first letter, in any case. -/
def ofToken (s : List Char) : Risk :=
  let t := lowerAscii s
  let isLevel (r : Risk) : Bool := t = r.name.toList || t = r.name.toList.take 1
  if isLevel high then high
  else if isLevel medium then medium
  else if isLevel low then low
  else unknown

def ofNote (note : Text) : Risk :=
  ((chars? (token note riskLabel).toList).map ofToken).getD unknown

end Risk

structure Terms where
  interestRate : Float
  period : Text
  targetDays : Int
  risk : Risk

namespace Terms

def ofNote (note : Text) : Except NotIntegral Terms := do
  let targetDays ← days (token note targetLabel)
  return ⟨number note interestLabel, token note periodLabel, targetDays, .ofNote note⟩

end Terms

end Appraisal.Note
