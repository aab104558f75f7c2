import Appraisal.Text.Blank
import Appraisal.Text.Digit
import Appraisal.Number.Shortest

/-!
# Reading decimal numerals

A numeral is a sign, digits with an optional point, and an optional exponent. The digits may come
from any script. Number readers differ in what they allow around this core: blanks at the ends, marks
between groups of digits, names for the special numbers.
-/

namespace Appraisal

structure Numeral where
  negative : Bool
  whole : List Nat
  fraction : List Nat
  exponent : Int
  deriving DecidableEq, Repr

namespace Numeral

open Text

def spanDigits : List Char → List Nat × List Char
  | [] => ([], [])
  | c :: s =>
      match digitValue? c with
      | some d => ((d :: (spanDigits s).1), (spanDigits s).2)
      | none => ([], c :: s)

def spanSign : List Char → Bool × List Char
  | '-' :: s => (true, s)
  | '+' :: s => (false, s)
  | s => (false, s)

/-- An exponent that takes up the whole text; the empty text stands for none. -/
def exponent? : List Char → Option Int
  | [] => some 0
  | c :: s =>
      if c = 'e' ∨ c = 'E' then
        let (negative, s) := spanSign s
        match spanDigits s with
        | ([], _) => none
        | (ds, []) => some (if negative then -(digitsValue ds : Int) else digitsValue ds)
        | (_, _ :: _) => none
      else none

def read? (s : List Char) : Option Numeral :=
  let (negative, s) := spanSign s
  let (whole, s) := spanDigits s
  let (fraction, s) :=
    match s with
    | '.' :: s => spanDigits s
    | s => ([], s)
  if whole.isEmpty && fraction.isEmpty then none
  else (exponent? s).map (fun e => ⟨negative, whole, fraction, e⟩)

def coefficient (n : Numeral) : Nat :=
  digitsValue (n.whole ++ n.fraction)

/-- The power of ten that the last digit counts. -/
def scale (n : Numeral) : Int :=
  n.exponent - n.fraction.length

/-- The double nearest to the numeral. Numbers far outside the range of doubles are settled by the
power of ten of their first digit. -/
def toFloat (n : Numeral) : Float :=
  let c := n.coefficient
  let first := n.scale + decimalLength c
  if c = 0 then Binary.signed n.negative 0
  else if 400 < first then Binary.signed n.negative Binary.infiniteBits
  else if first < -400 then Binary.signed n.negative 0
  else
    let s : Scientific := ⟨c, n.scale⟩
    Binary.nearest n.negative s.num s.den

/-- Removes the underscores that stand between two digits; any other underscore is a fault. -/
def ungroup? (afterDigit : Bool) : List Char → Option (List Char)
  | [] => some []
  | '_' :: c :: s =>
      if afterDigit && isDigit c then (ungroup? true s).map (c :: ·) else none
  | ['_'] => none
  | c :: s => (ungroup? (isDigit c) s).map (c :: ·)

/-- The sign and the digits of a whole number that takes up the whole text but for blanks at its ends.
Underscores may stand between digits. -/
def wholeDigits? (t : Text) : Option (Bool × List Nat) := do
  let s ← chars? t.toList
  let (negative, s) := spanSign (trimmedOf isMargin s)
  match (ungroup? false s).map spanDigits with
  | some (d :: ds, []) => some (negative, d :: ds)
  | _ => none

end Numeral

open Text

def lowerAscii (s : List Char) : List Char :=
  s.map Char.toLower

/-- Reads a double from any text that writes one: a numeral or the name of a special double, in any
case, with blanks at the ends and underscores between digits. -/
def readFloat? (t : Text) : Option Float := do
  let s := trimmedOf isMargin (← chars? t.toList)
  let (negative, name) := Numeral.spanSign s
  let name := lowerAscii name
  if name = "inf".toList ∨ name = "infinity".toList then
    some (Binary.signed negative Binary.infiniteBits)
  else if name = "nan".toList then some (Binary.toFloat .nan)
  else
    match Numeral.ungroup? false s with
    | some s => (Numeral.read? s).map Numeral.toFloat
    | none => none

end Appraisal
