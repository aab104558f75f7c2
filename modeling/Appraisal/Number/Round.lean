import Appraisal.Number.Binary

/-!
# Integral parts of doubles

The greatest integer below, the least integer above and the integer part, each computed on the exact
binary fraction.
-/

namespace Appraisal.Binary

/-- The quotient and the remainder of a magnitude by one; the remainder is over the given power. -/
def split (m : Nat) (q : Int) : Nat × Nat × Nat :=
  if 0 ≤ q then (m * twoPow q.toNat, 0, 1)
  else (m / twoPow (-q).toNat, m % twoPow (-q).toNat, twoPow (-q).toNat)

def withSign (negative : Bool) (n : Nat) : Int :=
  if negative then -(n : Int) else n

def floorOf (negative : Bool) (m : Nat) (q : Int) : Int :=
  let (whole, rest, _) := split m q
  if negative && rest != 0 then -(whole : Int) - 1 else withSign negative whole

def ceilOf (negative : Bool) (m : Nat) (q : Int) : Int :=
  -floorOf (!negative) m q

def truncateOf (negative : Bool) (m : Nat) (q : Int) : Int :=
  withSign negative (split m q).1

end Appraisal.Binary

namespace Appraisal

inductive NotIntegral
  | nan
  | infinite
  deriving DecidableEq, Repr

namespace NotIntegral

def message : NotIntegral → String
  | nan => "cannot convert float NaN to integer"
  | infinite => "cannot convert float infinity to integer"

end NotIntegral

open Binary

def integral (f : Bool → Nat → Int → Int) (x : Float) : Except NotIntegral Int :=
  match ofFloat x with
  | .nan => .error .nan
  | .infinite _ => .error .infinite
  | .finite negative m q => .ok (f negative m q)

def floorInt (x : Float) : Except NotIntegral Int := integral floorOf x

def ceilInt (x : Float) : Except NotIntegral Int := integral ceilOf x

def truncateInt (x : Float) : Except NotIntegral Int := integral truncateOf x

end Appraisal
