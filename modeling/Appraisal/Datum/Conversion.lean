import Appraisal.Datum.Display
import Appraisal.Datum.Equality
import Appraisal.Fault

/-!
# Data as numbers and as texts

The double and the whole number that a number, or a text that writes one, stands for. Numbers of any
size are data, but one with too many digits is not written out.
-/

namespace Appraisal.Datum

def decimalFloat (d : Decimal) : Except Fault Float :=
  match d.toFloat? with
  | some x => .ok x
  | none => .error (.refusal .signalingNaN)

def toFloat : Datum → Except Fault Float
  | truth b => .ok (if b then 1 else 0)
  | whole n =>
      match floatOfInt? n with
      | some x => .ok x
      | none => .error (.refusal (.quantity .wholeTooLarge))
  | double x => .ok x
  | decimal d => decimalFloat d
  | text s =>
      match readFloat? s with
      | some x => .ok x
      | none => .error (.refusal (.notNumeric s))
  | _ => .error .mismatch

def digitLimit : Nat := 4300

def overlong (found : String) : Refusal :=
  .stated .value
    ("Exceeds the limit (" ++ intText digitLimit ++ " digits) for integer string conversion" ++ found ++
      "; use sys.set_int_max_str_digits() to increase the limit")

mutual

def holdsOverlong : Datum → Bool
  | whole n => decide (digitLimit < decimalLength n.natAbs)
  | list items => anyHoldsOverlong items
  | tuple items => anyHoldsOverlong items
  | map entries => entryHoldsOverlong entries
  | _ => false

def anyHoldsOverlong : List Datum → Bool
  | [] => false
  | x :: xs => holdsOverlong x || anyHoldsOverlong xs

def entryHoldsOverlong : List (Datum × Datum) → Bool
  | [] => false
  | (k, v) :: es => holdsOverlong k || holdsOverlong v || entryHoldsOverlong es

end

def toText (d : Datum) : Except Fault Text :=
  if d.holdsOverlong then .error (.refusal (overlong "")) else .ok d.display

def wholeOfText (s : Text) : Except Refusal Int :=
  match Numeral.wholeDigits? s with
  | none =>
      .error (.stated .value ("invalid literal for int() with base 10: " ++ Text.quoted s))
  | some (negative, ds) =>
      if digitLimit < ds.length then
        .error (overlong (": value has " ++ intText ds.length ++ " digits"))
      else
        let n : Int := Text.digitsValue ds
        .ok (if negative then -n else n)

/-- A fraction is cut off. -/
def toWhole : Datum → Except Fault Int
  | truth b => .ok b.toNat
  | whole n => .ok n
  | double x => (truncateInt x).mapError (fun e => .refusal (.notIntegral e))
  | text s => (wholeOfText s).mapError .refusal
  | _ => .error .mismatch

/-- Any number is a decimal as it is, a text if it writes one. -/
def toDecimal : Datum → Except Fault Decimal
  | text s => (Decimal.read s).mapError .decimal
  | d =>
      match d.number? with
      | some n => .ok n
      | none => .error .mismatch

end Appraisal.Datum
