import Appraisal.Formula.Evaluation
import Appraisal.Journal.Writing

/-!
# Compilation with a record

Compiling a formula leaves a record of its size and its kind. A formula is checked by compiling it and
running it once on sample values, which leaves what compiling it leaves. The verdict says which kind
of failure came first, in one line for the person who writes the formula.
-/

namespace Appraisal.Formula

/-! ### Verdicts -/

structure Verdict where
  ok : Bool
  phase : Option FormulaError.Phase
  text : Text

namespace Verdict

def good : Verdict := ⟨true, none, ""⟩

def bad (e : FormulaError) : Verdict := ⟨false, some e.phase, e.description⟩

end Verdict

/-- The verdict on the outcome of a trial. Faults that are not of the formula are passed on. -/
def verdictOn : Except Fault Float → Except Fault Verdict
  | .ok _ => .ok .good
  | .error (.formula e) => .ok (.bad e)
  | .error e => .error e

/-! ### Records -/

open Journaled

def compiled (source : Datum) (schema : Schema := postingSchema)
    (registry : Registry := Library.registry) (limit : Int := defaultNodeLimit) :
    Journaled Fault Program := do
  let p ← lift ((compileDatum source schema registry limit).mapError .formula)
  note Journal.debugLevel "engines.formula.compiler" "formula_compiled"
    [("node_count", .whole p.count), ("result_type", .text p.kind.name)]
  return p

def tried (source : Datum) (environment : Environment)
    (registry : Registry := Library.registry) :
    Journaled Fault Float := do
  let p ← compiled source postingSchema registry
  lift (p.runNumeric environment)

def checked (source : Datum) (environment : Environment)
    (registry : Registry := Library.registry) :
    Journaled Fault Verdict := do
  let trial ← outcome (tried source environment registry)
  lift (verdictOn trial)

end Appraisal.Formula
