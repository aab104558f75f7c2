import Appraisal.Digest.Fingerprint
import Appraisal.Journal.Writing

/-!
# Traces

An engine is a computation of its own whose runs are recorded: its name and version and a fingerprint
of the inputs that identify the run. A run that fails leaves no record.
-/

namespace Appraisal.Journal

structure Engine where
  name : Text
  version : Text
  /-- The inputs that identify a run. -/
  fields : List Text
  /-- The function that runs it. -/
  function : Text

namespace Engine

def traceType : Text := "VALUATION_ENGINE_TRACE"

/-- The fingerprint of a run; an engine without fields has an empty one. -/
def fingerprint (e : Engine) (inputs : List (Text × Datum)) : Except Fault String :=
  if e.fields.isEmpty then .ok "" else Fingerprint.ofInputs e.fields inputs

/-- Runs a computation and records the run. Inputs that have no fingerprint stop it. -/
def traced {α : Type} (e : Engine) (inputs : List (Text × Datum)) (x : Journaled Fault α) :
    Journaled Fault α := do
  let fingerprint ← Journaled.lift (e.fingerprint inputs)
  let a ← x
  Journaled.note infoLevel "engines.tracer" traceType
    [("trace_type", .text traceType), ("engine_name", .text e.name),
     ("engine_version", .text e.version), ("input_fingerprint", .text fingerprint),
     ("function", .text e.function)]
  return a

end Engine

end Appraisal.Journal
