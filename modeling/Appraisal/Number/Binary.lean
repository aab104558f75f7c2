/-!
# Doubles as binary fractions

A finite double stands for `m · 2 ^ q` with a sign. `nearest` goes the other way: it gives the double
closest to a ratio, and of two equally close ones the one with the even significand. Every exact
operation on doubles in this library reads the operands with `Binary.ofFloat`, computes on integers
and rounds once. Doubles count in powers of two and decimals in powers of ten.
-/

namespace Appraisal

/-! ### Powers of two and of ten -/

def twoPow (k : Nat) : Nat := Nat.pow 2 k

def tenPow (k : Nat) : Nat := Nat.pow 10 k

theorem twoPow_succ (k : Nat) : twoPow (k + 1) = twoPow k * 2 := rfl

theorem tenPow_succ (k : Nat) : tenPow (k + 1) = tenPow k * 10 := rfl

theorem twoPow_pos (k : Nat) : 0 < twoPow k := by
  induction k with
  | zero => exact Nat.one_pos
  | succ k ih => rw [twoPow_succ]; omega

theorem tenPow_pos (k : Nat) : 0 < tenPow k := by
  induction k with
  | zero => exact Nat.one_pos
  | succ k ih => rw [tenPow_succ]; omega

/-! ### Binary fractions -/

inductive Binary
  | nan
  | infinite (negative : Bool)
  | finite (negative : Bool) (significand : Nat) (exponent : Int)
  deriving DecidableEq, Repr

namespace Binary

/-- The exponent of the last binary place of the smallest doubles. -/
def leastExponent : Int := -1074

def ofBits (bits : Nat) : Binary :=
  let negative := bits / twoPow 63 % 2 == 1
  let biased : Nat := bits / twoPow 52 % twoPow 11
  let fraction : Nat := bits % twoPow 52
  if biased = 2047 then
    if fraction = 0 then .infinite negative else .nan
  else if biased = 0 then .finite negative fraction leastExponent
  else .finite negative (twoPow 52 + fraction) ((biased : Int) - 1075)

def ofFloat (x : Float) : Binary :=
  ofBits x.toBits.toNat

/-- The quotient rounded to the nearest integer, a half to the even neighbour. -/
def roundHalfEven (num den : Nat) : Nat :=
  let quotient := num / den
  let rest := num % den
  if 2 * rest < den then quotient
  else if den < 2 * rest then quotient + 1
  else quotient + quotient % 2

def reaches (num den : Nat) (k : Int) : Bool :=
  if 0 ≤ k then den * twoPow k.toNat ≤ num else den ≤ num * twoPow (-k).toNat

def highestPlace (num den : Nat) : Int :=
  let k : Int := num.log2 - den.log2
  if reaches num den k then k else k - 1

/-- The exponent of the last binary place that a double near the ratio has. -/
def lastPlace (num den : Nat) : Int :=
  max (highestPlace num den - 52) leastExponent

def inUnits (num den : Nat) (q : Int) : Nat :=
  if 0 ≤ q then roundHalfEven num (den * twoPow q.toNat)
  else roundHalfEven (num * twoPow (-q).toNat) den

def infiniteBits : Nat := 2047 * twoPow 52

/-- The magnitude bits of the double nearest to a ratio; past the largest double they are those of
infinity. A significand that rounds up to the next power of two carries into the exponent. -/
def nearestBits (num den : Nat) : Nat :=
  if num = 0 then 0
  else
    let q := lastPlace num den
    min (inUnits num den q + (q - leastExponent).toNat * twoPow 52) infiniteBits

def signed (negative : Bool) (bits : Nat) : Float :=
  Float.ofBits (UInt64.ofNat (if negative then bits + twoPow 63 else bits))

def nearest (negative : Bool) (num den : Nat) : Float :=
  signed negative (nearestBits num den)

def nearestScaled (negative : Bool) (m : Nat) (q : Int) : Float :=
  if 0 ≤ q then nearest negative (m * twoPow q.toNat) 1 else nearest negative m (twoPow (-q).toNat)

def toFloat : Binary → Float
  | nan => Float.ofBits 0x7FF8000000000000
  | infinite negative => signed negative infiniteBits
  | finite negative m q => nearestScaled negative m q

def isFinite : Binary → Bool
  | finite .. => true
  | _ => false

def scale (x : Float) (factor divisor : Nat) : Float :=
  match ofFloat x with
  | finite negative m q =>
      if 0 ≤ q then nearest negative (m * twoPow q.toNat * factor) divisor
      else nearest negative (m * factor) (twoPow (-q).toNat * divisor)
  | _ => x

end Binary

/-- The double nearest to an integer; an integer past the largest double has none. -/
def floatOfInt? (n : Int) : Option Float :=
  let bits := Binary.nearestBits n.natAbs 1
  if bits = Binary.infiniteBits then none else some (Binary.signed (n < 0) bits)

def floatOfRatio (num : Int) (den : Nat) : Float :=
  Binary.nearest (num < 0) num.natAbs den

end Appraisal
