import Appraisal.Calendar.Notation

/-!
# Refusals

The reasons why an operation on single values has no result, and the families that they belong to:
the value is not one that the operation is for, the result is too large, a divisor is zero, a text
cannot be written as bytes, or the system refuses.
-/

namespace Appraisal

inductive RefusalFamily
  | value
  | range
  | division
  | encoding
  | system
  deriving DecidableEq, Repr

inductive Refusal
  | notNumeric (text : Text)
  | quantity (why : QuantityError)
  | notIntegral (why : NotIntegral)
  | signalingNaN
  | outsideDomain
  | outsideRange
  | wholeDivision
  | time (why : TimeError)
  | calendar (why : CalendarError)
  /-- A text with surrogates that stand alone. -/
  | unencodable (text : Text)
  /-- A reason in the words of whoever refuses. -/
  | stated (family : RefusalFamily) (reason : Text)
  deriving DecidableEq, Repr

namespace Refusal

def surrogatesMessage (t : Text) : String :=
  match t.surrogateRun? with
  | some (start, 1) =>
      "'utf-8' codec can't encode character '" ++
        String.ofList ((t.toList.drop start).take 1 |>.flatMap Text.numbered) ++ "' in position " ++
        intText start ++ ": surrogates not allowed"
  | some (start, length) =>
      "'utf-8' codec can't encode characters in position " ++ intText start ++ "-" ++
        intText (start + length - 1 : Nat) ++ ": surrogates not allowed"
  | none => ""

def message : Refusal → Text
  | notNumeric s => "could not convert string to float: " ++ Text.quoted s
  | quantity why => why.message
  | notIntegral why => why.message
  | signalingNaN => "cannot convert signaling NaN to float"
  | outsideDomain => "math domain error"
  | outsideRange => "math range error"
  | wholeDivision => "integer division or modulo by zero"
  | time why => why.message
  | calendar why => why.message
  | unencodable s => surrogatesMessage s
  | stated _ reason => reason

def integralFamily : NotIntegral → RefusalFamily
  | .nan => .value
  | .infinite => .range

def family : Refusal → RefusalFamily
  | notNumeric _ => .value
  | quantity _ => .range
  | notIntegral why => integralFamily why
  | signalingNaN => .value
  | outsideDomain => .value
  | outsideRange => .range
  | wholeDivision => .division
  | time (.notIntegral why) => integralFamily why
  | time _ => .range
  | calendar _ => .value
  | unencodable _ => .encoding
  | stated family _ => family

end Refusal

end Appraisal
