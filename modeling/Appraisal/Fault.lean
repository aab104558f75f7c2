import Appraisal.Datum.Order
import Appraisal.Formula.Error
import Appraisal.Refusal
import Appraisal.Report

/-!
# Faults

How a computation can end without a result. Faults of formulas are told apart from refused operations
on single values, from signals of decimal arithmetic and from values of a kind that an operation does
not know.
-/

namespace Appraisal

namespace Formula.FormulaError

def sort : FormulaError → String
  | malformed .. => "FormulaSyntaxError"
  | tooComplex .. => "FormulaTooComplexError"
  | failed .. => "FormulaRuntimeError"
  | outOfSteps .. => "EvaluationBudgetExceededError"
  | notNumeric .. => "FormulaTypeError"
  | other .. => "FormulaError"

def fields (e : FormulaError) : List (Text × Datum) :=
  let formula : Text × Datum := ("formula", .text e.formula)
  let detail : Text × Datum := ("detail", .text e.detail)
  match e with
  | malformed _ _ c => [detail, ("offset", .whole c), formula]
  | tooComplex _ n l =>
      [("node_count", .whole n), ("limit", .whole l), detail, ("offset", .whole 0), formula]
  | failed .. => [detail, formula]
  | outOfSteps _ l => [("max_steps", .whole l), detail, formula]
  | notNumeric _ found => [("result_type", .text found), formula]
  | other .. => [formula]

def report (e : FormulaError) : Report := ⟨e.sort, some e.message, some e.code, e.fields⟩

end Formula.FormulaError

namespace Refusal

def sort (r : Refusal) : String :=
  match r.family with
  | .value => "ValueError"
  | .range => "OverflowError"
  | .division => "ZeroDivisionError"
  | .encoding => "UnicodeEncodeError"
  | .system => "OSError"

def report (r : Refusal) : Report := .plain r.sort r.message

end Refusal

namespace DecimalError

def sort : DecimalError → String
  | malformed => "InvalidOperation"
  | invalid => "InvalidOperation"
  | overflow => "Overflow"

def report (e : DecimalError) : Report := .plain e.sort e.message

end DecimalError

inductive Fault
  | formula (e : Formula.FormulaError)
  | refusal (r : Refusal)
  | decimal (e : DecimalError)
  /-- A value of a kind that the operation is not for. -/
  | mismatch
  /-- A value of a kind that lacks the operation. -/
  | unsupported
  /-- A fault of the library itself that is of no other sort. -/
  | general (reason : Text)
  deriving DecidableEq, Repr

namespace Fault

def report : Fault → Report
  | formula e => e.report
  | refusal r => r.report
  | decimal e => e.report
  | mismatch => .silent "TypeError"
  | unsupported => .silent "AttributeError"
  | general reason => ⟨"ValuationKernelError", some reason, some "VALUATION_KERNEL_ERROR", []⟩

def message (f : Fault) : Text := f.report.message.getD ""

def ofOrder : Datum.OrderError → Fault
  | .unordered => mismatch
  | .decimal e => decimal e

end Fault

end Appraisal
