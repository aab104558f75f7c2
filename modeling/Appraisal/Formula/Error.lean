import Appraisal.Number.Notation
import Appraisal.Text.Quoted

/-!
# Errors of formulas

A formula that cannot be compiled, one that fails while it runs, and one that gives no number are
told apart by their constructors. Each error holds the formula as it was given.
-/

namespace Appraisal.Formula

inductive FormulaError
  /-- The text is no formula; a column of zero stands for an unknown place. -/
  | malformed (formula detail : Text) (column : Int)
  | tooComplex (formula : Text) (count : Nat) (limit : Int)
  | failed (formula detail : Text)
  | outOfSteps (formula : Text) (limit : Int)
  | notNumeric (formula : Text) (found : String)
  /-- Any other fault, in the words of whoever found it. -/
  | other (formula reason : Text)
  deriving DecidableEq, Repr

namespace FormulaError

/-! ### Wording -/

def malformedText (formula place detail : Text) : Text :=
  "Invalid formula " ++ formula ++ place ++ ": " ++ detail

def placeText (column : Text) : Text := " at column " ++ column

def failedText (formula detail : Text) : Text := "Formula " ++ formula ++ " failed: " ++ detail

def tooComplexText (limit : Text) : Text := "formula has more than " ++ limit ++ " nodes"

def outOfStepsText (limit : Text) : Text := "evaluation exceeded " ++ limit ++ " steps"

def notNumericText (found : Text) : Text := "formula must return a number, got " ++ found

/-! ### Parts -/

def formula : FormulaError → Text
  | malformed f _ _ => f
  | tooComplex f _ _ => f
  | failed f _ => f
  | outOfSteps f _ => f
  | notNumeric f _ => f
  | other f _ => f

def detail : FormulaError → Text
  | malformed _ d _ => d
  | tooComplex _ _ limit => tooComplexText (intText limit)
  | failed _ d => d
  | outOfSteps _ limit => outOfStepsText (intText limit)
  | notNumeric _ found => notNumericText found
  | other _ reason => reason

def column : FormulaError → Int
  | malformed _ _ c => c
  | _ => 0

def place (column : Int) : Text :=
  if column = 0 then "" else placeText (intText column)

def message (e : FormulaError) : Text :=
  match e with
  | malformed f _ c => malformedText (Text.quoted f) (place c) e.detail
  | tooComplex f .. => malformedText (Text.quoted f) "" e.detail
  | failed f _ => failedText (Text.quoted f) e.detail
  | outOfSteps f _ => failedText (Text.quoted f) e.detail
  | notNumeric .. => e.detail
  | other .. => e.detail

def code : FormulaError → String
  | malformed .. => "FORMULA_SYNTAX_ERROR"
  | tooComplex .. => "FORMULA_TOO_COMPLEX"
  | failed .. => "FORMULA_RUNTIME_ERROR"
  | outOfSteps .. => "EVALUATION_BUDGET_EXCEEDED"
  | notNumeric .. => "FORMULA_TYPE_ERROR"
  | other .. => "FORMULA_ERROR"

/-- Is the formula itself at fault, before any value is known? -/
def isStatic : FormulaError → Bool
  | malformed .. => true
  | tooComplex .. => true
  | _ => false

/-- The three kinds of failure that someone who writes a formula tells apart. -/
inductive Phase
  | compiling
  | running
  | result
  deriving DecidableEq, Repr

def Phase.name : Phase → String
  | compiling => "syntax"
  | running => "runtime"
  | result => "type"

def phase : FormulaError → Phase
  | malformed .. => .compiling
  | tooComplex .. => .compiling
  | notNumeric .. => .result
  | _ => .running

def opening : FormulaError → String
  | malformed .. => "syntax error: "
  | tooComplex .. => "syntax error: "
  | failed .. => "evaluation error: "
  | outOfSteps .. => "evaluation error: "
  | notNumeric .. => ""
  | other .. => ""

def description (e : FormulaError) : Text := e.opening ++ e.message

end FormulaError

end Appraisal.Formula
