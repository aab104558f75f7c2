import Appraisal.Decimal.Basic

/-!
# Decimal arithmetic

Sums, differences and products are exact up to twenty-eight digits and are rounded half to even
beyond them. A result too large for the range of exponents is an overflow; one too small loses digits.
The exponent kept by an exact sum is the smaller of the two. The nearest whole decimal is exact, however
many digits it has.
-/

namespace Appraisal.Decimal

def precision : Nat := 28

def greatestExponent : Int := 999999

def tinyExponent : Int := -greatestExponent - precision + 1

def topExponent : Int := greatestExponent - precision + 1

/-- Brings a finite result into the range of exponents and to the precision. -/
def settle (s : Bool) (c : Nat) (e : Int) : Except DecimalError Decimal :=
  if c = 0 then .ok (finite s 0 (min (max e tinyExponent) greatestExponent))
  else
    let needed := e + decimalLength c - precision
    if topExponent < needed then .error .overflow
    else
      let unit := max needed tinyExponent
      if unit ≤ e then .ok (finite s c e)
      else
        let shift := (unit - e).toNat
        let rounded :=
          if decimalLength c + 1 < shift then 0 else Binary.roundHalfEven c (tenPow shift)
        if precision < decimalLength rounded then
          if topExponent < unit + 1 then .error .overflow
          else .ok (finite s (rounded / 10) (unit + 1))
        else .ok (finite s rounded unit)

/-- The sum of two numbers in units of `10 ^ e`. -/
def settleInt (n : Int) (e : Int) : Except DecimalError Decimal :=
  settle (n < 0) n.natAbs e

/-- The sum of two numbers that are not zero, the first with the larger exponent. A second number
far below the last digit of the first counts only as a trace that decides the rounding. -/
def addAligned (s₁ : Bool) (c₁ : Nat) (e₁ : Int) (s₂ : Bool) (c₂ : Nat) (e₂ : Int) :
    Except DecimalError Decimal :=
  let least := e₁ + min (-1) ((decimalLength c₁ : Int) - precision - 2)
  let (c₂, e₂) := if adjusted c₂ e₂ < least then (1, least) else (c₂, e₂)
  settleInt (units s₁ c₁ e₁ e₂ + units s₂ c₂ e₂ e₂) e₂

def addZero (s : Bool) (c : Nat) (e unit : Int) : Except DecimalError Decimal :=
  let e' := max (min e unit) (e - precision - 1)
  settle s (c * tenPow (e - e').toNat) e'

/-- The quiet value that is no number, with as much of its payload as the precision leaves. -/
def quiet (s : Bool) (payload : Nat) : Decimal :=
  nan s false (payload % tenPow precision)

def add : Decimal → Decimal → Except DecimalError Decimal
  | nan s₁ g₁ p₁, b =>
      if g₁ || b.isSignaling then .error .invalid else .ok (quiet s₁ p₁)
  | _, nan s g p => if g then .error .invalid else .ok (quiet s p)
  | infinite s₁, infinite s₂ => if s₁ = s₂ then .ok (infinite s₁) else .error .invalid
  | infinite s, finite .. => .ok (infinite s)
  | finite .., infinite s => .ok (infinite s)
  | finite s₁ c₁ e₁, finite s₂ c₂ e₂ =>
      if c₁ = 0 && c₂ = 0 then settle (s₁ && s₂) 0 (min e₁ e₂)
      else if c₁ = 0 then addZero s₂ c₂ e₂ e₁
      else if c₂ = 0 then addZero s₁ c₁ e₁ e₂
      else if e₁ < e₂ then addAligned s₂ c₂ e₂ s₁ c₁ e₁
      else addAligned s₁ c₁ e₁ s₂ c₂ e₂

def sub (a b : Decimal) : Except DecimalError Decimal :=
  match b with
  | nan .. => add a b
  | _ => add a b.negate

def mul : Decimal → Decimal → Except DecimalError Decimal
  | nan s₁ g₁ p₁, b =>
      if g₁ || b.isSignaling then .error .invalid else .ok (quiet s₁ p₁)
  | _, nan s g p => if g then .error .invalid else .ok (quiet s p)
  | infinite s₁, infinite s₂ => .ok (infinite (s₁ != s₂))
  | infinite s₁, finite s₂ c _ => if c = 0 then .error .invalid else .ok (infinite (s₁ != s₂))
  | finite s₁ c _, infinite s₂ => if c = 0 then .error .invalid else .ok (infinite (s₁ != s₂))
  | finite s₁ c₁ e₁, finite s₂ c₂ e₂ => settle (s₁ != s₂) (c₁ * c₂) (e₁ + e₂)

/-- The sum of a list, from the left and from zero, so that a single number is rounded too. -/
def sum (ds : List Decimal) : Except DecimalError Decimal :=
  ds.foldlM add zero

/-- The nearest whole decimal, halves away from zero. A decimal without places stays as it is. -/
def toIntegral : Decimal → Decimal
  | finite s c e =>
      if 0 ≤ e then finite s c e
      else
        let unit := tenPow (-e).toNat
        finite s ((2 * c + unit) / (2 * unit)) 0
  | d => d

end Appraisal.Decimal
