import Appraisal.Number.Notation

/-!
# Doubles with a given precision

A double written with a number of digits that is asked for: after the point, after the first digit of
an exponential form, or in all. What is left out is rounded, a half to the even neighbour. The sign is
not part of these texts.
-/

namespace Appraisal

/-- A ratio with `count` significant digits: the digits and the power of ten of the first. -/
def significantDigits (count num den : Nat) : List Char × Int :=
  if num = 0 then (List.replicate count '0', 0)
  else
    let first := highestDecimal num den
    let shift := (count : Int) - 1 - first
    let n := Binary.roundHalfEven (num * tenPow shift.toNat) (den * tenPow (-shift).toNat)
    let ds := digitsOf n
    if count < ds.length then (ds.take count, first + 1) else (ds, first)

inductive PrecisionRule
  | places
  | exponential
  | general
  deriving DecidableEq, Repr

namespace PrecisionRule

/-- Digits with a point behind the first `whole`, kept or not when nothing follows it. -/
def pointed (ds : List Char) (whole : Nat) (keepPoint : Bool) : List Char :=
  let fraction := ds.drop whole
  ds.take whole ++ if fraction.isEmpty && !keepPoint then [] else '.' :: fraction

def exponentialChars (places num den : Nat) (keepPoint : Bool) : List Char :=
  let (ds, e) := significantDigits (places + 1) num den
  pointed ds 1 keepPoint ++ reportNotation.exponentText e

/-- Positional if the exponent is at least -4 and below the number of digits. Zeros at the end are
left out unless the point is kept. -/
def generalChars (count num den : Nat) (keepPoint : Bool) : List Char :=
  let count := max count 1
  let (ds, e) := significantDigits count num den
  let short := if keepPoint then ds else withoutTrailingZeros ds
  if e < -4 || (count : Int) ≤ e then
    pointed (if short.isEmpty then ['0'] else short) 1 keepPoint ++ reportNotation.exponentText e
  else if e < 0 then
    '0' :: '.' :: List.replicate (-e - 1).toNat '0' ++ short
  else
    let whole := e.toNat + 1
    pointed (short ++ List.replicate (whole - short.length) '0') whole keepPoint

def ratio (r : PrecisionRule) (precision num den : Nat) (keepPoint : Bool) : List Char :=
  match r with
  | places => fixedRatio precision num den ++ if keepPoint && precision = 0 then ['.'] else []
  | exponential => exponentialChars precision num den keepPoint
  | general => generalChars precision num den keepPoint

def chars (r : PrecisionRule) (precision : Nat) (keepPoint : Bool) (x : Float) : Bool × List Char :=
  match Binary.ofFloat x with
  | .nan => (false, "nan".toList)
  | .infinite negative => (negative, "inf".toList)
  | .finite negative m q =>
      (negative, r.ratio precision (m * twoPow q.toNat) (twoPow (-q).toNat) keepPoint)

end PrecisionRule

end Appraisal
