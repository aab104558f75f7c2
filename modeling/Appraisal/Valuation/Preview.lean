import Appraisal.Formula.Compilation

/-!
# Previews

A formula is tried on values that a request gives: an amount, a number of days and a note. The request
is data of any shape. A value that is missing, zero or no number stands for the usual one.
-/

namespace Appraisal

structure PreviewRequest where
  formula : Text
  amount : Float
  daysHeld : Float
  note : Text

namespace PreviewRequest

def defaultAmount : Float := 10000

def defaultDays : Float := 30

def text (d : Datum) : Except Fault Text := if d.isGiven then d.toText else .ok ""

/-- The number of a field. Whole numbers too large for a double are refused. -/
def number (d : Datum) (default : Float) : Except Fault Float :=
  match d with
  | .null => .ok default
  | .truth _ => .ok default
  | d =>
      match d.toFloat with
      | .ok x => .ok (if x == 0 then default else x)
      | .error (.refusal r) => if r.family = .value then .ok default else .error (.refusal r)
      | .error .mismatch => .ok default
      | .error e => .error e

def ofBody (body : List (Datum × Datum)) : Except Fault PreviewRequest := do
  let formula ← text (Datum.field body "formula")
  let amount ← number (Datum.field body "amount") defaultAmount
  let daysHeld ← number (Datum.field body "days_held") defaultDays
  let note ← text (Datum.field body "note")
  return ⟨formula, amount, daysHeld, note⟩

end PreviewRequest

structure Preview where
  formula : Text
  context : Formula.Context
  outcome : Except Text Float

namespace Preview

open Journaled

def account : Text := "Assets:Preview"

/-- The day that lies so many days before an instant, or the day of the instant if there is none. -/
def startOf (now : Moment) (daysHeld : Float) : Date :=
  match (Span.ofDays (.double daysHeld)).bind (fun span => now.plus (-span)) with
  | .ok t => t.date
  | .error _ => now.date

def contextOf (r : PreviewRequest) (now : Moment) (currency : Text) : Except Fault Formula.Context :=
  Formula.Context.ofSample
    { amount := .double r.amount, daysHeld := .double r.daysHeld, note := r.note, account := account
      commodity := currency, date := startOf now r.daysHeld }

def explain (e : Formula.FormulaError) : Text :=
  (if e.isStatic then "Compile error: " else "Evaluation error: ") ++ e.message

def ofOutcome : Except Fault Float → Except Fault (Except Text Float)
  | .ok x => .ok (.ok x)
  | .error (.formula e) => .ok (.error (explain e))
  | .error e => .error e

def ofRequest (r : PreviewRequest) (now : Moment) (currency : Text) : Journaled Fault Preview := do
  let context ← lift (contextOf r now currency)
  let trial ← Journaled.outcome (Formula.tried (.text r.formula) context.lookup?)
  let result ← lift (ofOutcome trial)
  return ⟨r.formula, context, result⟩

def sampleData (c : Formula.Context) : List (Text × Datum) :=
  [("amount", .double c.amount), ("days_held", .double c.daysHeld),
   ("months_held", .double c.monthsHeld), ("years_held", .double c.yearsHeld),
   ("note", .text c.note)]

def resultField (p : Preview) : Text × Datum :=
  match p.outcome with
  | .ok x => ("result", .double x)
  | .error message => ("error", .text message)

def isOk (p : Preview) : Bool :=
  match p.outcome with
  | .ok _ => true
  | .error _ => false

def payload (p : Preview) : Datum :=
  .object
    [("formula", .text p.formula), ("sample_data", .object (sampleData p.context)), p.resultField]

def answer (body : List (Datum × Datum)) (now : Except Fault Moment) (currency : Text) :
    Journaled Fault Preview := do
  let request ← lift (PreviewRequest.ofBody body)
  let now ← lift now
  let preview ← ofRequest request now currency
  note Journal.debugLevel "services.handlers" "valuation_previewed" [("ok", .truth preview.isOk)]
  return preview

end Preview

end Appraisal
