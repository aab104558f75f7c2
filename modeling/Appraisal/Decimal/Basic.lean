import Appraisal.Number.Notation

/-!
# Decimal numbers

Money is kept in decimal: a sign, a coefficient and a power of ten. Numbers that differ only in the
zeros at their end are different decimals with one value. There are two infinities, and the values
that are no number come with a quiet and a signaling form.
-/

namespace Appraisal

inductive Decimal
  | finite (negative : Bool) (coefficient : Nat) (exponent : Int)
  | infinite (negative : Bool)
  | nan (negative signaling : Bool) (payload : Nat)
  deriving DecidableEq, Repr, Inhabited

inductive DecimalError
  /-- A text is not that of a decimal. -/
  | malformed
  | invalid
  | overflow
  deriving DecidableEq, Repr

namespace DecimalError

def message : DecimalError → String
  | malformed => "[<class 'decimal.ConversionSyntax'>]"
  | invalid => "[<class 'decimal.InvalidOperation'>]"
  | overflow => "[<class 'decimal.Overflow'>]"

end DecimalError

namespace Decimal

def zero : Decimal := finite false 0 0

def one : Decimal := finite false 1 0

instance : OfNat Decimal 0 := ⟨zero⟩

def ofInt (n : Int) : Decimal := finite (n < 0) n.natAbs 0

/-- The decimal that a double is, with all of its digits. A binary place is a decimal one with a factor
of five. -/
def ofDouble (x : Float) : Decimal :=
  match Binary.ofFloat x with
  | .nan => nan false false 0
  | .infinite s => infinite s
  | .finite s m q =>
      if 0 ≤ q then finite s (m * twoPow q.toNat) 0 else finite s (m * Nat.pow 5 (-q).toNat) q

def isNaN : Decimal → Bool
  | nan .. => true
  | _ => false

def isFinite : Decimal → Bool
  | finite .. => true
  | _ => false

def negate : Decimal → Decimal
  | finite s c e => finite (!s) c e
  | infinite s => infinite (!s)
  | nan s g p => nan (!s) g p

def length (c : Nat) : Nat := max 1 (decimalLength c)

def adjusted (c : Nat) (e : Int) : Int := e + length c - 1

/-- The integer that the number is in units of `10 ^ e`, for an `e` at most its exponent. -/
def units (s : Bool) (c : Nat) (e : Int) (unit : Int) : Int :=
  let n : Int := c * tenPow (e - unit).toNat
  if s then -n else n

/-- Compares two finite decimals by value. Numbers whose first digits count different powers of ten
are compared by these, so that no exponent is too large. -/
def compareFinite (s₁ : Bool) (c₁ : Nat) (e₁ : Int) (s₂ : Bool) (c₂ : Nat) (e₂ : Int) : Ordering :=
  if c₁ = 0 || c₂ = 0 || s₁ != s₂ then
    let sign (s : Bool) (c : Nat) : Int := if c = 0 then 0 else if s then -1 else 1
    compare (sign s₁ c₁) (sign s₂ c₂)
  else
    let magnitudes :=
      match compare (adjusted c₁ e₁) (adjusted c₂ e₂) with
      | .eq => compare (units false c₁ e₁ (min e₁ e₂)) (units false c₂ e₂ (min e₁ e₂))
      | o => o
    if s₁ then magnitudes.swap else magnitudes

/-- Compares two decimals by value; there is no answer when one is no number. -/
def compare? : Decimal → Decimal → Option Ordering
  | nan .., _ => none
  | _, nan .. => none
  | infinite s₁, infinite s₂ =>
      some (if s₁ = s₂ then .eq else if s₁ then .lt else .gt)
  | infinite s, finite .. => some (if s then .lt else .gt)
  | finite .., infinite s => some (if s then .gt else .lt)
  | finite s₁ c₁ e₁, finite s₂ c₂ e₂ => some (compareFinite s₁ c₁ e₁ s₂ c₂ e₂)

/-- The order of two decimals; asking it of a value that is no number is invalid. -/
def order (a b : Decimal) : Except DecimalError Ordering :=
  match compare? a b with
  | some o => .ok o
  | none => .error .invalid

def isSignaling : Decimal → Bool
  | nan _ g _ => g
  | _ => false

/-- Equality of values; a quiet value that is no number equals nothing. -/
def equal (a b : Decimal) : Except DecimalError Bool :=
  if a.isSignaling || b.isSignaling then .error .invalid
  else .ok (compare? a b == some .eq)

end Decimal

end Appraisal
