import Appraisal.Datum.Conversion
import Appraisal.Text.Blank
import Appraisal.Valuation.Configuration

/-!
# Configuration documents

A configuration is written as a document: a mapping with a currency and a list of rules. Texts may be
given as any scalar. How a document is written in a file is left to the reader of documents, which is
given from outside.
-/

namespace Appraisal

structure Malformed where
  report : Report
  message : Text

/-- Gives the datum that the text from a source holds. -/
abbrev DocumentReader := Text → String → Except Malformed Datum

inductive DocumentError
  | notMapping (source : Text) (kind : String)
  | notList (kind : String)
  | ruleNotMapping (kind : String)
  | notScalar (field kind : String)
  | missing (field : String)
  /-- A whole number with too many digits in the place of a text. -/
  | overlong
  deriving DecidableEq, Repr

namespace DocumentError

def report : DocumentError → Report
  | notMapping source kind =>
      .plain "ValueError" (source ++ ": top level must be a mapping, got " ++ kind)
  | notList kind => .plain "ValueError" ("custom_valuations must be a list, got " ++ kind)
  | ruleNotMapping kind => .plain "ValueError" ("valuation rule must be a mapping, got " ++ kind)
  | notScalar field kind => .plain "ValueError" (field ++ " must be a scalar, got " ++ kind)
  | missing field => .missingKey field
  | overlong => (Datum.overlong "").report

end DocumentError

namespace Document

def text? (fields : List (Datum × Datum)) (name : String) : Except DocumentError (Option Text) :=
  match Datum.field fields name with
  | .null => .ok none
  | .map _ => .error (.notScalar name "dict")
  | .list _ => .error (.notScalar name "list")
  | d => if d.holdsOverlong then .error .overlong else .ok (some d.display)

def optional (fields : List (Datum × Datum)) (name : String) : Except DocumentError Text :=
  (text? fields name).map (·.getD "")

def required (fields : List (Datum × Datum)) (name : String) : Except DocumentError Text := do
  match ← text? fields name with
  | some s => return s
  | none => throw (.missing name)

def rule : Datum → Except DocumentError Rule
  | .map fields => do
      let name ← optional fields "name"
      let account ← required fields "account"
      let formula ← required fields "formula"
      let noteContains ← optional fields "note_contains"
      return ⟨name.trim, account.trim, formula.trim, noteContains⟩
  | d => .error (.ruleNotMapping d.kindName)

def rules (d : Datum) : Except DocumentError (List Rule) :=
  if d.isGiven then
    match d with
    | .list items => items.mapM rule
    | d => .error (.notList d.kindName)
  else .ok []

/-- The configuration of a mapping. An empty currency stands for the usual one. -/
def configuration (fields : List (Datum × Datum)) (source : Text := "") :
    Except DocumentError Configuration := do
  let rules ← rules (Datum.field fields "custom_valuations")
  let currency ← optional fields "default_currency"
  return ⟨if currency = "" then Configuration.defaultCurrency else currency, rules, source⟩

/-- The configuration of a whole document; one without content is empty. -/
def ofDatum (source : Text) : Datum → Except DocumentError Configuration
  | .null => configuration [] source
  | .map fields => configuration fields source
  | d => .error (.notMapping source d.kindName)

end Document

end Appraisal
