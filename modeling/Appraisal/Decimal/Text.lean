import Appraisal.Decimal.Basic
import Appraisal.Number.Numeral

/-!
# The text of a decimal

Decimals are written in the scientific form of the General Decimal Arithmetic: positionally when the
exponent is not positive and the first digit is not far behind the point, with an exponent otherwise.
The reader takes the same forms, blanks at the ends, underscores anywhere and digits of any script.
-/

namespace Appraisal.Decimal

def pointed (ds : List Char) (places : Nat) : List Char :=
  if places = 0 then ds
  else if places < ds.length then ds.take (ds.length - places) ++ '.' :: ds.drop (ds.length - places)
  else '0' :: '.' :: List.replicate (places - ds.length) '0' ++ ds

def scientific (ds : List Char) (e : Int) : List Char :=
  let exponent := 'E' :: (if e < 0 then '-' else '+') :: digitsOf e.natAbs
  match ds with
  | [] => []
  | [d] => d :: exponent
  | d :: rest => d :: '.' :: rest ++ exponent

def chars : Decimal → List Char
  | finite s c e =>
      let ds := digitsOf c
      let first := e + ds.length - 1
      (if s then ['-'] else []) ++
        if e ≤ 0 && -6 ≤ first then pointed ds (-e).toNat else scientific ds first
  | infinite s => (if s then ['-'] else []) ++ "Infinity".toList
  | nan s g p =>
      (if s then ['-'] else []) ++ (if g then ['s'] else []) ++ "NaN".toList ++
        if p = 0 then [] else digitsOf p

def text (d : Decimal) : String :=
  String.ofList d.chars

def payload? (s : List Char) : Option Nat :=
  match Numeral.spanDigits s with
  | (ds, []) => some (Text.digitsValue ds)
  | _ => none

def dropWord? (w s : List Char) : Option (List Char) :=
  if w.isPrefixOf s then some (s.drop w.length) else none

/-- The power of ten that the first digit of a written decimal may have at most. -/
def writtenLimit : Int := 999999999999999999

def leastWritten : Int := -2 * writtenLimit + 1

def ofNumeral (n : Numeral) : Except DecimalError Decimal :=
  let c := n.coefficient
  let e := n.scale
  if writtenLimit < adjusted c e || e < leastWritten then .error .invalid
  else .ok (finite n.negative c e)

def ofChars (s : List Char) : Except DecimalError Decimal :=
  let t := (Text.trimmed s).filter (· != '_')
  let (negative, name) := Numeral.spanSign t
  let name := lowerAscii name
  let special (signaling : Bool) (rest : List Char) : Except DecimalError Decimal :=
    match payload? rest with
    | some p => .ok (nan negative signaling p)
    | none => .error .malformed
  if name = "inf".toList ∨ name = "infinity".toList then .ok (infinite negative)
  else
    match dropWord? "nan".toList name, dropWord? "snan".toList name, Numeral.read? t with
    | some rest, _, _ => special false rest
    | none, some rest, _ => special true rest
    | none, none, some n => ofNumeral n
    | none, none, none => .error .malformed

def read (t : Text) : Except DecimalError Decimal :=
  match Text.chars? t.toList with
  | some s => ofChars s
  | none => .error .malformed

def read? (t : Text) : Option Decimal := (read t).toOption

/-- The double nearest to a decimal; a signaling value has none. -/
def toFloat? : Decimal → Option Float
  | finite s c e =>
      some (Numeral.toFloat { negative := s, whole := (digitsOf c).map (fun d => d.toNat - 0x30),
                              fraction := [], exponent := e })
  | infinite s => some (Binary.signed s Binary.infiniteBits)
  | nan _ g _ => if g then none else some (Binary.toFloat .nan)

/-- The shortest decimal that reads back as the double, with the digits and places of its report. -/
def ofFloat (x : Float) : Decimal :=
  match Binary.ofFloat x with
  | .nan => nan false false 0
  | .infinite s => infinite s
  | .finite .. => (read? (floatText x)).getD zero

end Appraisal.Decimal
