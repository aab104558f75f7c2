import Appraisal.Formula.Function
import Appraisal.Valuation.Store

/-!
# Errors raised by hand

An error of the library made from its sort and its parts, which may be data of any kind. Parts are
displayed in messages as they are; formulas and the names of functions are quoted. Made from the parts
of an error of a formula, it says the same as the error that the library itself makes:
`ofParts_parts`.
-/

namespace Appraisal

structure Raised where
  report : Report
  /-- What is said to someone who writes a formula, for errors of formulas. -/
  verdict : Option (Formula.FormulaError.Phase × Text) := none

namespace Raised

open Formula

/-- An error of a formula with the sort, the code and the phase of another one. -/
def ofFormula (like : FormulaError) (message : Text) (fields : List (Text × Datum)) : Raised where
  report := ⟨like.sort, some message, some like.code, fields⟩
  verdict := some (like.phase, like.opening ++ message)

def malformed (formula detail column : Datum) : Raised :=
  let place := if column.isGiven then FormulaError.placeText column.display else ""
  ofFormula (.malformed "" "" 0) (FormulaError.malformedText formula.shown place detail.display)
    [("detail", detail), ("offset", column), ("formula", formula)]

def tooComplex (formula count limit : Datum) : Raised :=
  let detail := FormulaError.tooComplexText limit.display
  ofFormula (.tooComplex "" 0 0) (FormulaError.malformedText formula.shown "" detail)
    [("node_count", count), ("limit", limit), ("detail", .text detail), ("offset", .whole 0),
     ("formula", formula)]

def failed (formula detail : Datum) : Raised :=
  ofFormula (.failed "" "") (FormulaError.failedText formula.shown detail.display)
    [("detail", detail), ("formula", formula)]

def outOfSteps (formula limit : Datum) : Raised :=
  let detail := FormulaError.outOfStepsText limit.display
  ofFormula (.outOfSteps "" 0) (FormulaError.failedText formula.shown detail)
    [("max_steps", limit), ("detail", .text detail), ("formula", formula)]

def notNumeric (formula found : Datum) : Raised :=
  ofFormula (.notNumeric "" "") (FormulaError.notNumericText found.display)
    [("result_type", found), ("formula", formula)]

def other (formula message : Datum) : Raised :=
  ofFormula (.other "" "") message.display [("formula", formula)]

/-- The items of a datum: those of a list, the letters of a text, the keys of a mapping. -/
def items? : Datum → Option (List Datum)
  | .list ds => some ds
  | .tuple ds => some ds
  | .map entries => some (entries.map Prod.fst)
  | d => d.asText?.map (fun t => t.toList.map (fun l => .text (.ofList [l])))

def invalid (errors source : Datum) : Except Fault Raised :=
  match items? errors with
  | some es => .ok { report := ConfigurationError.invalidReport es source }
  | none => .error .mismatch

def general (reason : Text) : Raised := { report := (Fault.general reason).report }

def ofParts (sort : String) (parts : List Datum) : Except Fault Raised :=
  match sort, parts with
  | "ValuationKernelError", [] => .ok (general "")
  | "ValuationKernelError", [m] => .ok (general m.display)
  | "ValuationKernelError", ms => .ok (general (Datum.tuple ms).shown)
  | "FormulaError", [f, m] => .ok (other f m)
  | "FormulaSyntaxError", [f, d] => .ok (malformed f d (.whole 0))
  | "FormulaSyntaxError", [f, d, c] => .ok (malformed f d c)
  | "FormulaTooComplexError", [f, n, l] => .ok (tooComplex f n l)
  | "FormulaRuntimeError", [f, d] => .ok (failed f d)
  | "EvaluationBudgetExceededError", [f, l] => .ok (outOfSteps f l)
  | "FormulaTypeError", [f, t] => .ok (notNumeric f t)
  | "FunctionRegistrationError", [f, r] => .ok { report := RegistrationError.reportOf f r }
  | "ValuationConfigError", [es] => invalid es (.text "")
  | "ValuationConfigError", [es, s] => invalid es s
  | _, _ => .error .mismatch

/-! ### Errors of formulas -/

/-- What is left of an error to someone who catches it. -/
def ofError (e : FormulaError) : Raised := ⟨e.report, some (e.phase, e.description)⟩

def parts : FormulaError → List Datum
  | .malformed f d c => [.text f, .text d, .whole c]
  | .tooComplex f n l => [.text f, .whole n, .whole l]
  | .failed f d => [.text f, .text d]
  | .outOfSteps f l => [.text f, .whole l]
  | .notNumeric f found => [.text f, .text found]
  | .other f reason => [.text f, .text reason]

/-- An error made by hand is the one that the library itself makes of these parts. -/
theorem ofParts_parts (e : FormulaError) : ofParts e.sort (parts e) = .ok (ofError e) := by
  cases e with
  | malformed f d c =>
      -- a column of zero is no place, as data that are not given are none
      have hplace : (if (Datum.whole c).isGiven then FormulaError.placeText (intText c) else "") =
          FormulaError.place c := by
        by_cases hc : c = 0
        · simp [Datum.isGiven, FormulaError.place, hc]
        · simp [Datum.isGiven, FormulaError.place, hc]
      change Except.ok (ofFormula (.malformed "" "" 0) (FormulaError.malformedText (Text.quoted f)
        (if (Datum.whole c).isGiven then FormulaError.placeText (intText c) else "") d) _) = _
      rw [hplace]
      rfl
  | tooComplex f n l => rfl
  | failed f d => rfl
  | outOfSteps f l => rfl
  | notNumeric f found => rfl
  | other f reason => rfl

end Raised

end Appraisal
