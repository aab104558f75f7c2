import Appraisal.Number.Binary

/-!
# The shortest decimal of a double

Among the decimals that read back as a given double, those with the fewest digits, of these the
nearest, and of two as near the one with an even last digit. For a number of digits only the two
neighbours of the double on that decimal grid matter, so the search tries them for one digit, two
digits and so on; seventeen digits always suffice.
-/

namespace Appraisal

structure Scientific where
  digits : Nat
  exponent : Int
  deriving DecidableEq, Repr

/-- How many decimal digits a number has; zero has none. -/
def decimalLength (n : Nat) : Nat :=
  if h : n = 0 then 0 else decimalLength (n / 10) + 1
termination_by n
decreasing_by omega

namespace Scientific

def num (s : Scientific) : Nat :=
  if 0 ≤ s.exponent then s.digits * tenPow s.exponent.toNat else s.digits

def den (s : Scientific) : Nat :=
  if 0 ≤ s.exponent then 1 else tenPow (-s.exponent).toNat

def bits (s : Scientific) : Nat :=
  Binary.nearestBits s.num s.den

/-- The distance between a decimal and a ratio, as a ratio over the product of the divisors. -/
def distance (s : Scientific) (num den : Nat) : Nat :=
  (s.num * den - num * s.den) + (num * s.den - s.num * den)

end Scientific

def highestDecimal (num den : Nat) : Int :=
  if den ≤ num then decimalLength (num / den) - 1 else -(decimalLength ((den - 1) / num) : Int)

/-- The largest decimal with the last place at `10 ^ k` that is at most the ratio. -/
def gridFloor (num den : Nat) (k : Int) : Nat :=
  if 0 ≤ k then num / (den * tenPow k.toNat) else num * tenPow (-k).toNat / den

/-- The nearer of two neighbours of a ratio. Halfway between them the last digit decides, which is
even for one of them. -/
def nearer (num den : Nat) (below above : Scientific) : Scientific :=
  match compare (below.distance num den) (above.distance num den) with
  | .lt => below
  | .gt => above
  | .eq => if below.digits % 2 = 0 then below else above

/-- Of the two neighbours of a ratio on the grid of `n` digits, the nearest that reads as `bits`. -/
def neighbour? (bits num den n : Nat) : Option Scientific :=
  let k := highestDecimal num den - n + 1
  let below : Scientific := ⟨gridFloor num den k, k⟩
  let above : Scientific := ⟨gridFloor num den k + 1, k⟩
  match below.bits == bits, above.bits == bits with
  | true, true => some (nearer num den below above)
  | true, false => some below
  | false, true => some above
  | false, false => none

/-- The first hit among the grids of `n`, `n + 1`, … digits. -/
def firstNeighbour (bits num den : Nat) : Nat → Nat → Option Scientific
  | 0, _ => none
  | fuel + 1, n =>
      match neighbour? bits num den n with
      | some s => some s
      | none => firstNeighbour bits num den fuel (n + 1)

def shortest (m : Nat) (q : Int) : Scientific :=
  let num := if 0 ≤ q then m * twoPow q.toNat else m
  let den := if 0 ≤ q then 1 else twoPow (-q).toNat
  (firstNeighbour (Binary.nearestBits num den) num den 17 1).getD ⟨m, 0⟩

end Appraisal
