import Appraisal.Journal.Writing
import Appraisal.Ledger.AccountPattern
import Appraisal.Ledger.Row
import Appraisal.Sorting

/-!
# The store of a ledger

A store is closed, open without a table, or open with rows in it. Postings are added in scopes: all of
a scope are stored, or none if the scope fails. They are selected by the coarse filter of an account
pattern and ordered by date and account. This is the database that the program runs on: one of those
for which transactions are stated, with rows in memory.
-/

namespace Appraisal

inductive LedgerStore
  | closed
  | bare
  | ready (rows : List Posting)

namespace LedgerStore

open Journaled

def logger : String := "db.engine"

def inserted (s : LedgerStore) (d : Draft) : Except LedgerError LedgerStore :=
  match s with
  | closed => .error .closed
  | bare => if d.isUnstorable then .error .unstorable else .error .noTable
  | ready rows => do return ready (rows ++ [← Row.ofDraft d])

/-- A scope adds drafts one after the other. It is given up at the first that cannot be made. -/
abbrev Scope := List (Except Report Draft)

def commit (s : LedgerStore) (scope : Scope) : Except LedgerError LedgerStore :=
  scope.foldlM (fun s step => do s.inserted (← step.mapError .abandoned)) s

def openNew {ε : Type} : Journaled ε LedgerStore := do
  note Journal.infoLevel logger "engine_initialized"
    [("dialect", .text "sqlite"), ("echo", .truth false)]
  return bare

def isOpen : LedgerStore → Bool
  | closed => false
  | _ => true

/-- Creates the table; rows that are there stay. -/
def createTable (s : LedgerStore) : Journaled LedgerError LedgerStore := do
  let created ← lift (match s with
    | closed => .error .closed
    | bare => .ok (ready [])
    | ready rows => .ok (ready rows))
  note Journal.infoLevel logger "tables_created" [("tables", .list [.text "postings"])]
  return created

def add (s : LedgerStore) (scope : Scope) : Journaled LedgerError LedgerStore := do
  if s.isOpen then
    note Journal.debugLevel logger "transaction_started" []
    match s.commit scope with
    | .ok s => do
        note Journal.debugLevel logger "transaction_committed" []
        return s
    | .error e => do
        note Journal.warningLevel logger "transaction_rolled_back" [] (some e.report)
        throw e
  else throw .closed

def before (p q : Posting) : Bool :=
  p.date.day < q.date.day || (p.date.day == q.date.day && Text.before p.account q.account)

/-- The postings that the coarse filter of a pattern lets through. -/
def candidates (filter : Text) (rows : List Posting) : List Posting :=
  sorted before (rows.filter (fun p => CoarseFilter.accepts filter p.account))

def filterLimit : Nat := 50000

/-- The coarse filter of a pattern. One that is too long fails at the first row. -/
def filterOf (pattern : Text) (rows : List Posting) : Except LedgerError Text := do
  let filter ← Row.encoded (AccountPattern.coarse pattern)
  let bytes := (filter.toList.filterMap Letter.char?).foldl (fun n c => n + c.utf8Size) 0
  if filterLimit < bytes && !rows.isEmpty then throw .longFilter
  return filter

def rows : LedgerStore → Except LedgerError (List Posting)
  | closed => .error .closed
  | bare => .error .noTable
  | ready rows => .ok rows

def select (s : LedgerStore) (pattern : Text) : Journaled LedgerError (List Posting) := do
  let rows ← lift s.rows
  let filter ← lift (filterOf pattern rows)
  let found := candidates filter rows
  note Journal.debugLevel "selectors.posting" "postings_selected"
    [("pattern", .text pattern), ("candidate_count", .whole found.length)]
  return found

end LedgerStore

def Draft.rowText (d : Draft) : Text :=
  "<PostingModel " ++ d.account.display ++
    (" " ++ d.amount.text ++ " " ++ d.date.text ++ ">" : String)

end Appraisal
