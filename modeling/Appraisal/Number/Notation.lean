import Appraisal.Number.Shortest

/-!
# The text of a double

The shortest decimal that reads back, written positionally when its first digit stands within fixed
limits and with an exponent otherwise. What a particular output chooses freely is one record.
-/

namespace Appraisal

structure FloatNotation where
  /-- The least power of ten of the first digit that is written positionally. -/
  lowest : Int
  /-- The first power of ten of the first digit that is no longer written positionally. -/
  limit : Int
  /-- What follows the digits of an integral number in positional notation. -/
  integralMark : String
  /-- The least number of digits of an exponent. -/
  exponentWidth : Nat
  infinityName : String
  nanName : String

/-- Reports write 1.0, 1e+16 and 1e-05. -/
def reportNotation : FloatNotation :=
  ⟨-4, 16, ".0", 2, "inf", "nan"⟩

/-- The factor of the imaginary unit is written without a mark on integral numbers. -/
def imaginaryNotation : FloatNotation :=
  { reportNotation with integralMark := "" }

def jsonNotation : FloatNotation :=
  { reportNotation with infinityName := "Infinity", nanName := "NaN" }

def digitChar (d : Nat) : Char :=
  Char.ofNat (0x30 + d)

/-- The decimal digits of a number, in front of the given digits; zero has none. -/
def prependDigits (n : Nat) (acc : List Char) : List Char :=
  if h : n = 0 then acc else prependDigits (n / 10) (digitChar (n % 10) :: acc)
termination_by n
decreasing_by omega

def digitsOf (n : Nat) : List Char :=
  if n = 0 then ['0'] else prependDigits n []

def intText (n : Int) : String :=
  String.ofList (if n < 0 then '-' :: digitsOf n.natAbs else digitsOf n.natAbs)

def padDigits (width : Nat) (ds : List Char) : List Char :=
  List.replicate (width - ds.length) '0' ++ ds

def withoutTrailingZeros (ds : List Char) : List Char :=
  (ds.reverse.dropWhile (· == '0')).reverse

namespace FloatNotation

def exponentText (f : FloatNotation) (e : Int) : List Char :=
  'e' :: (if e < 0 then '-' else '+') :: padDigits f.exponentWidth (digitsOf e.natAbs)

/-- The digits of a number whose first digit counts `10 ^ e`. -/
def place (f : FloatNotation) (ds : List Char) (e : Int) : List Char :=
  if f.lowest ≤ e && e < f.limit then
    if e < 0 then '0' :: '.' :: List.replicate (-e - 1).toNat '0' ++ ds
    else
      let point := e.toNat + 1
      if ds.length ≤ point then
        ds ++ List.replicate (point - ds.length) '0' ++ f.integralMark.toList
      else ds.take point ++ '.' :: ds.drop point
  else
    match ds with
    | [] => []
    | [d] => d :: f.exponentText e
    | d :: rest => d :: '.' :: rest ++ f.exponentText e

def magnitude (f : FloatNotation) (m : Nat) (q : Int) : List Char :=
  if m = 0 then '0' :: f.integralMark.toList
  else
    let s := shortest m q
    let ds := digitsOf s.digits
    f.place (withoutTrailingZeros ds) (s.exponent + ds.length - 1)

def chars (f : FloatNotation) (x : Float) : List Char :=
  match Binary.ofFloat x with
  | .nan => f.nanName.toList
  | .infinite negative => (if negative then ['-'] else []) ++ f.infinityName.toList
  | .finite negative m q => (if negative then ['-'] else []) ++ f.magnitude m q

def text (f : FloatNotation) (x : Float) : String :=
  String.ofList (f.chars x)

end FloatNotation

def floatText (x : Float) : String :=
  reportNotation.text x

/-- A ratio with a fixed number of decimal places, a half going to the even neighbour. -/
def fixedRatio (places num den : Nat) : List Char :=
  let ds := padDigits (places + 1) (digitsOf (Binary.roundHalfEven (num * tenPow places) den))
  let point := ds.length - places
  if places = 0 then ds else ds.take point ++ '.' :: ds.drop point

def fixedText (places : Nat) (x : Float) : String :=
  String.ofList <|
    match Binary.ofFloat x with
    | .nan => "nan".toList
    | .infinite negative => (if negative then ['-'] else []) ++ "inf".toList
    | .finite negative m q =>
        (if negative then ['-'] else []) ++
          if 0 ≤ q then fixedRatio places (m * twoPow q.toNat) 1
          else fixedRatio places m (twoPow (-q).toNat)

end Appraisal
