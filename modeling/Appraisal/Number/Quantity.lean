import Appraisal.Number.Notation
import Appraisal.Number.Round

/-!
# Quantities

A quantity is a whole number or a double. Whole numbers are exact among themselves; where one meets a
double it becomes the nearest double. Order and equality compare exact values.
-/

namespace Appraisal

inductive Quantity
  | whole (n : Int)
  | double (x : Float)

inductive QuantityError
  | wholeTooLarge
  | quotientTooLarge
  deriving DecidableEq, Repr

namespace QuantityError

def message : QuantityError → String
  | wholeTooLarge => "int too large to convert to float"
  | quotientTooLarge => "integer division result too large for a float"

end QuantityError

namespace Quantity

open Binary

def toFloat : Quantity → Except QuantityError Float
  | whole n =>
      match floatOfInt? n with
      | some x => .ok x
      | none => .error .wholeTooLarge
  | double x => .ok x

def isZero : Quantity → Bool
  | whole n => n == 0
  | double x => x == 0

def negate : Quantity → Quantity
  | whole n => whole (-n)
  | double x => double (-x)

def abs : Quantity → Quantity
  | whole n => whole n.natAbs
  | double x => double x.abs

/-- An operation that is exact on two whole numbers and works on doubles otherwise. -/
def combine (exact : Int → Int → Int) (approximate : Float → Float → Float) :
    Quantity → Quantity → Except QuantityError Quantity
  | whole a, whole b => .ok (whole (exact a b))
  | a, b => do
      let x ← a.toFloat
      let y ← b.toFloat
      return double (approximate x y)

def add : Quantity → Quantity → Except QuantityError Quantity := combine (· + ·) (· + ·)

def sub : Quantity → Quantity → Except QuantityError Quantity := combine (· - ·) (· - ·)

def mul : Quantity → Quantity → Except QuantityError Quantity := combine (· * ·) (· * ·)

/-- The quotient of two whole numbers as the nearest double, if it is not too large. It is negative
if just one of them is, even if it is zero. -/
def quotient? (a b : Int) : Option Float :=
  let x := Binary.nearest (decide (a < 0) != decide (b < 0)) a.natAbs b.natAbs
  if x.isFinite then some x else none

def div : Quantity → Quantity → Except QuantityError Quantity
  | whole a, whole b =>
      match quotient? a b with
      | some x => .ok (double x)
      | none => .error .quotientTooLarge
  | a, b => do
      let x ← a.toFloat
      let y ← b.toFloat
      return double (x / y)

/-- The exact remainder of two magnitudes; both are multiples of the smaller power of two. -/
def remainderOf (m₁ : Nat) (q₁ : Int) (m₂ : Nat) (q₂ : Int) : Nat × Int :=
  let q := min q₁ q₂
  ((m₁ * twoPow (q₁ - q).toNat) % (m₂ * twoPow (q₂ - q).toNat), q)

/-- The remainder with the sign of the first number. -/
def remainder (x y : Float) : Float :=
  match ofFloat x, ofFloat y with
  | .finite s₁ m₁ q₁, .finite _ m₂ q₂ =>
      if m₂ = 0 then Binary.toFloat .nan
      else
        let (m, q) := remainderOf m₁ q₁ m₂ q₂
        nearestScaled s₁ m q
  | .finite .., .infinite _ => x
  | _, _ => Binary.toFloat .nan

/-- The remainder with the sign of the second number, a zero among them. -/
def floatMod (x y : Float) : Float :=
  let r := remainder x y
  if r == 0 then (if y < 0 then -0.0 else 0.0)
  else if (y < 0) != (r < 0) then r + y
  else r

def mod : Quantity → Quantity → Except QuantityError Quantity := combine Int.fmod floatMod

/-- The exact order of a whole number and a double; a double that is no number has none. -/
def compareWhole (n : Int) (x : Float) : Option Ordering :=
  match ofFloat x with
  | .nan => none
  | .infinite negative => some (if negative then .gt else .lt)
  | .finite negative m q =>
      if 0 ≤ q then some (compare n (withSign negative (m * twoPow q.toNat)))
      else some (compare (n * twoPow (-q).toNat) (withSign negative m))

def order? : Quantity → Quantity → Option Ordering
  | whole a, whole b => some (compare a b)
  | whole a, double y => compareWhole a y
  | double x, whole b => (compareWhole b x).map Ordering.swap
  | double x, double y =>
      if x < y then some .lt else if y < x then some .gt else if x == y then some .eq else none

def lt (a b : Quantity) : Bool := a.order? b == some .lt

/-- Is a quantity a number, and one that a double can stand for? -/
def isFinite (a : Quantity) : Except QuantityError Bool :=
  a.toFloat.map Float.isFinite

end Quantity

end Appraisal
