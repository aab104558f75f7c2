import Appraisal.Datum.Order
import Appraisal.Fault
import Appraisal.Note.Terms

/-!
# Calls on notes

The functions on notes by name, applied to data of any kind. A note that is no text has no words, and
a label that is no text cannot be looked for.
-/

namespace Appraisal.Note

def textOf (d : Datum) : Except Fault Text :=
  match d.asText? with
  | some s => .ok s
  | none => .error .unsupported

def searched (d : Datum) : Except Fault Text :=
  match d.asText? with
  | some s => .ok s
  | none => .error .mismatch

/-- Reads the token of a label. An empty label has none in any note. -/
def labelled {α : Type} (read : Text → Text → α) (note label : Datum) : Except Fault α :=
  if label.isGiven then do
    let note ← textOf note
    return read note (← searched label)
  else .ok (read "" "")

def isKey : Datum → Bool
  | .list _ => false
  | .map _ => false
  | _ => true

/-- Does a note hold a part? A list holds its items, a mapping its keys. -/
def holds (note part : Datum) : Except Fault Bool :=
  match note with
  | .list items => .ok (items.any part.same)
  | .map entries => if isKey part then .ok (entries.any (fun e => part.same e.1)) else .error .mismatch
  | note => do return contains (← searched note) (← searched part)

def integral {α : Type} (x : Except NotIntegral α) : Except Fault α :=
  x.mapError (fun e => .refusal (.notIntegral e))

def Terms.datum (t : Terms) : Datum :=
  .object
    [("interest_rate", .double t.interestRate), ("period", .text t.period),
     ("target_days", .whole t.targetDays), ("risk_level", .text t.risk.name)]

def call (name : String) (args : List Datum) : Except Fault Datum :=
  match name, args with
  | "parse_note_string", [note, label] => (labelled token note label).map .text
  | "parse_note_float", [note, label] => (labelled number note label).map .double
  | "note_contains", [note, part] => (holds note part).map .truth
  | "has_close_marker", notes => do return .truth (hasCloseMarker (← notes.mapM searched))
  | "parse_duration", [s] => do return .whole (← integral (days (← textOf s)))
  | "parse_risk_level", [note] => do return .text (Risk.ofNote (← textOf note)).name
  | "parse_loan_terms", [note] => do return (← integral (Terms.ofNote (← textOf note))).datum
  | _, _ => .error .mismatch

end Appraisal.Note
