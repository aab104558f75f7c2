import Appraisal.Datum.Basic
import Appraisal.Text.Quoted

/-!
# Reports of errors

An error as it appears in an answer or in a journal: the name of its sort, its message and, for the
errors of the library itself, a code for programs and the values that belong to it.
-/

namespace Appraisal

structure Report where
  sort : String
  /-- None for errors whose wording is not fixed. -/
  message : Option Text
  code : Option String := none
  fields : List (Text × Datum) := []

namespace Report

def plain (sort : String) (message : Text) : Report := ⟨sort, some message, none, []⟩

def silent (sort : String) : Report := ⟨sort, none, none, []⟩

/-- The sort of all errors that the library itself names. -/
def rootSort : String := "ValuationKernelError"

def broader : List (String × List String) :=
  let formula := "FormulaError"
  [("FormulaSyntaxError", [formula]), ("FormulaTypeError", [formula]),
   ("FormulaRuntimeError", [formula]),
   ("FormulaTooComplexError", ["FormulaSyntaxError", formula]),
   ("EvaluationBudgetExceededError", ["FormulaRuntimeError", formula])]

def lineage (sort : String) : List String :=
  if sort = rootSort then [rootSort]
  else sort :: ((broader.find? (fun s => s.1 = sort)).map Prod.snd).getD [] ++ [rootSort]

def missingKey (key : Text) : Report := plain "KeyError" (Text.quoted key)

end Report

end Appraisal
