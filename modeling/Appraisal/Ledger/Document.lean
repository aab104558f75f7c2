import Appraisal.Json.Reader
import Appraisal.Ledger.Store

/-!
# Ledger documents

A ledger written as a list of postings in JSON, each with the fields under which postings are shown.
A field that is missing has its usual value.
-/

namespace Appraisal.LedgerDocument

def textField (fields : List (Datum × Datum)) (name : Text) : Text :=
  ((Datum.field fields name).asText?).getD ""

def posting? : Datum → Option Posting
  | .map fields => do
      let date ← (Date.read (textField fields "date")).toOption
      let quantity := (Datum.lookup? "quantity" fields).getD (.decimal .one)
      (Posting.ofData (textField fields "account") (Datum.field fields "amount") date quantity
        (textField fields "note") (textField fields "transaction_note")
        (textField fields "commodity")).toOption
  | _ => none

def postings? (content : String) : Option (List Posting) :=
  match Json.read? content with
  | some (.list items) => items.mapM posting?
  | _ => none

/-- The ledger with the content of a file. A file that is not there or that is no list of postings
holds no table. -/
def ledger (content : Option String) : LedgerStore :=
  let scope (ps : List Posting) : LedgerStore.Scope := ps.map (fun p => .ok p.draft)
  match (content.bind postings?).map (fun ps => (LedgerStore.ready []).commit (scope ps)) with
  | some (.ok store) => store
  | _ => .bare

end Appraisal.LedgerDocument
