import Appraisal.Decimal.Arithmetic
import Appraisal.Decimal.Text
import Appraisal.Formula.Registry
import Appraisal.Note.Token

/-!
# The function library

The functions that every formula may call: interest, arithmetic, a choice between two numbers, and
access to the tokens of a note. Numbers are quantities, so that a whole number given by a caller stays
exact until it meets a double.
-/

namespace Appraisal.Formula.Library

open Quantity

/-! ### Numbers -/

def ofQuantities : List Datum → Option (List Quantity) :=
  List.mapM Datum.quantity?

def numeric (names : List String) (run : List Quantity → Except Fault Quantity) : Implementation where
  shape := some (.fixed names)
  run args :=
    match ofQuantities args with
    | some qs => (run qs).map .ofQuantity
    | none => .error .mismatch

def lift {α : Type} : Except QuantityError α → Except Fault α
  | .ok a => .ok a
  | .error e => .error (.refusal (.quantity e))

def liftIntegral {α : Type} : Except NotIntegral α → Except Fault α
  | .ok a => .ok a
  | .error e => .error (.refusal (.notIntegral e))

/-- Principal times rate per cent times the fraction of the span that the days make up. -/
def interestOver (span : Int) (principal rate days : Quantity) : Except QuantityError Quantity := do
  let share ← rate.div (whole 100)
  let yearly ← principal.mul share
  let fraction ← days.div (whole span)
  yearly.mul fraction

def dailyInterest (principal rate days : Quantity) : Except QuantityError Quantity := do
  let share ← rate.div (whole 100)
  let daily ← principal.mul share
  daily.mul days

def isOddInteger (y : Float) : Bool :=
  remainder y.abs 2 == 1

def specialPower (x y : Float) : Float :=
  if x.isNaN then (if y == 0 then 1 else x)
  else if y.isNaN then (if x == 1 then 1 else y)
  else if x.isInf then
    if 0 < y then (if y.isFinite && isOddInteger y then x else x.abs)
    else if y == 0 then 1
    else if y.isFinite && isOddInteger y && x < 0 then -0.0
    else 0
  else if x.abs == 1 then 1
  else if 0 < y && 1 < x.abs then y
  else if y < 0 && x.abs < 1 then -y
  else 0

def floatPower (x y : Float) : Except Refusal Float :=
  if x.isFinite && y.isFinite then
    let r := x.pow y
    if r.isFinite then .ok r
    else if r.isNaN || x == 0 then .error .outsideDomain
    else .error .outsideRange
  else .ok (specialPower x y)

def power (x y : Quantity) : Except Fault Quantity := do
  let x ← lift x.toFloat
  let y ← lift y.toFloat
  match floatPower x y with
  | .ok r => return double r
  | .error e => throw (.refusal e)

/-- Compounding is monthly where no other number of periods is given. -/
def monthlyPeriods : Float := 12

def compoundInterest (principal rate days periods : Quantity) : Except Fault Quantity := do
  let periods := if periods.isZero then double monthlyPeriods else periods
  let years ← lift (days.div (whole 365))
  let share ← lift (rate.div (whole 100))
  let growth ← lift (share.div periods)
  let base ← lift ((whole 1).add growth)
  let exponent ← lift (periods.mul years)
  let factor ← power base exponent
  lift (principal.mul factor)

def minimum (a b : Quantity) : Quantity := if b.lt a then b else a

def maximum (a b : Quantity) : Quantity := if a.lt b then b else a

def exactly : Quantity → Decimal
  | whole n => .ofInt n
  | double x => .ofDouble x

/-- The nearest integer, halves away from zero, found among the decimals. A double that is no number
stays as it is. -/
def rounded (x : Quantity) : Quantity :=
  match (exactly x).toIntegral.toFloat? with
  | some r => double r
  | none => x

def integralPart (f : Float → Except NotIntegral Int) : Quantity → Except Fault Quantity
  | whole n => (lift (whole n).toFloat).map double
  | double x => do
      let n ← liftIntegral (f x)
      (lift (whole n).toFloat).map double

def squareRoot (x : Quantity) : Except Fault Quantity := do
  let x ← lift x.toFloat
  let r := x.sqrt
  if r.isNaN && !x.isNaN then throw (.refusal .outsideDomain) else return double r

def clamped (value low high : Quantity) : Quantity :=
  maximum low (minimum high value)

/-! ### Choice and notes -/

def choose : List Datum → Except Fault Datum
  | [.truth c, a, b] => .ok (if c then a else b)
  | _ => .error .mismatch

def textual (names : List String) (run : Text → Text → Datum) : Implementation where
  shape := some (.fixed names)
  run args :=
    match args.mapM Datum.asText? with
    | some [a, b] => .ok (run a b)
    | _ => .error .mismatch

def unary (names : List String) (f : Quantity → Except Fault Quantity) : Implementation :=
  numeric names (fun
    | [a] => f a
    | _ => .error .mismatch)

def binary (names : List String) (f : Quantity → Quantity → Except Fault Quantity) :
    Implementation :=
  numeric names (fun
    | [a, b] => f a b
    | _ => .error .mismatch)

def ternary (names : List String)
    (f : Quantity → Quantity → Quantity → Except Fault Quantity) : Implementation :=
  numeric names (fun
    | [a, b, c] => f a b c
    | _ => .error .mismatch)

/-! ### The functions -/

/-- A function all of whose parameters must be given. -/
def function (name : String) (params : List Kind) (returns : Kind) (impl : Implementation)
    (doc sample : Text) (isName : Text.isName name.toList = true := by decide +kernel)
    (suitable : impl.objection? params.length = none := by rfl) : Function where
  name := name
  params := params
  returns := returns
  impl := impl
  required := params.length
  defaults := []
  doc := doc
  sample := sample
  isName_name := isName
  required_le := Nat.le_refl _
  fits_defaults := by simp [fits]
  suitable := suitable

def simpleInterest : Function :=
  function "simple_interest" [.number, .number, .number] .number
    (ternary ["principal", "rate", "days"] (fun p r d => lift (interestOver 365 p r d)))
    "Simple interest: principal * rate% * days / 365. Returns the interest amount."
    "simple_interest(amount, 12, days_held)"

def compoundInterestFunction : Function where
  name := "compound_interest"
  params := [.number, .number, .number, .number]
  returns := .number
  impl := numeric ["principal", "rate", "days", "compounds_per_year"] (fun
    | [p, r, d, n] => compoundInterest p r d n
    | _ => .error .mismatch)
  required := 3
  defaults := [.double monthlyPeriods]
  doc := "Compound value: principal * (1 + rate%/n)^(n * days/365). " ++
    "n defaults to 12 when zero or omitted. Returns the total value."
  sample := "compound_interest(amount, 12, days_held, 12)"
  isName_name := by decide +kernel
  required_le := by decide
  fits_defaults := by rfl
  suitable := by rfl

def monthlyInterest : Function :=
  function "monthly_interest" [.number, .number, .number] .number
    (ternary ["principal", "monthly_rate", "days"] (fun p r d => lift (interestOver 30 p r d)))
    "Interest at a monthly rate: principal * rate% * days / 30."
    "monthly_interest(amount, 1, days_held)"

def dailyInterestFunction : Function :=
  function "daily_interest" [.number, .number, .number] .number
    (ternary ["principal", "daily_rate", "days"] (fun p r d => lift (dailyInterest p r d)))
    "Interest at a daily rate: principal * rate% * days."
    "daily_interest(amount, 0.03, days_held)"

def minFunction : Function :=
  function "min" [.number, .number] .number
    (binary ["a", "b"] (fun a b => .ok (minimum a b)))
    "Minimum of two values." "min(amount, 10000)"

def maxFunction : Function :=
  function "max" [.number, .number] .number
    (binary ["a", "b"] (fun a b => .ok (maximum a b)))
    "Maximum of two values." "max(amount, 0)"

def roundFunction : Function :=
  function "round" [.number] .number (unary ["x"] (fun x => .ok (rounded x)))
    "Nearest integer; halves round away from zero." "round(amount)"

def floorFunction : Function :=
  function "floor" [.number] .number (unary ["x"] (integralPart floorInt))
    "Round down." "floor(amount)"

def ceilFunction : Function :=
  function "ceil" [.number] .number (unary ["x"] (integralPart ceilInt))
    "Round up." "ceil(amount)"

def absFunction : Function :=
  function "abs" [.number] .number (unary ["x"] (fun x => .ok x.abs))
    "Absolute value." "abs(amount)"

def powFunction : Function :=
  function "pow" [.number, .number] .number (binary ["base", "exp"] power)
    "base raised to exp." "pow(1.01, months_held)"

def sqrtFunction : Function :=
  function "sqrt" [.number] .number (unary ["x"] squareRoot)
    "Square root." "sqrt(amount)"

def clampFunction : Function :=
  function "clamp" [.number, .number, .number] .number
    (ternary ["value", "low", "high"] (fun v l h => .ok (clamped v l h)))
    "Restrict value to the range [low, high]." "clamp(amount, 0, 100000)"

def chooseFunction : Function :=
  function "if_else" [.boolean, .number, .number] .number
    ⟨some (.fixed ["condition", "when_true", "when_false"]), choose⟩
    "when_true if condition holds, else when_false. Both branches are evaluated."
    "if_else(days_held > 365, amount * 1.1, amount)"

def noteNumber : Function :=
  function "parse_note_float" [.string, .string] .number
    (textual ["note", "prefix"] (fun n l => .double (Note.number n l)))
    ("Number that follows prefix in note, or 0. " ++
      "e.g. parse_note_float(\"Int:12.5 Per:M\", \"Int:\") -> 12.5")
    "parse_note_float(note, \"Int:\")"

def noteToken : Function :=
  function "parse_note_string" [.string, .string] .string
    (textual ["note", "prefix"] (fun n l => .text (Note.token n l)))
    "Token that follows prefix in note, or an empty string."
    "parse_note_string(note, \"Per:\")"

def noteContains : Function :=
  function "note_contains" [.string, .string] .boolean
    (textual ["note", "substr"] (fun n s => .truth (Note.contains n s)))
    "True if note contains substr (case-sensitive)."
    "note_contains(note, \"live\")"

def functions : List Function :=
  [simpleInterest, compoundInterestFunction, monthlyInterest, dailyInterestFunction, minFunction,
    maxFunction, roundFunction, floorFunction, ceilFunction, absFunction, powFunction, sqrtFunction,
    clampFunction, chooseFunction, noteNumber, noteToken, noteContains]

def registry : Registry :=
  ⟨functions, by decide⟩

end Appraisal.Formula.Library
