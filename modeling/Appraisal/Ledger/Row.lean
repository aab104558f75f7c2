import Appraisal.Datum.Conversion
import Appraisal.Ledger.Draft
import Appraisal.Number.Precise

/-!
# Rows

A row keeps the texts and the amounts of a draft. Amounts are kept as doubles and come back with nine
decimal places. A number in the place of a text is kept as its numeral, and nothing as the empty text.
A text with surrogates has no bytes that could be kept. The main statement: a text that is kept has no
surrogates and comes back as it was.

These are the rows of a database in memory. What another database makes of a double, or of a number in
the place of a text, may differ; a transaction does not depend on it.
-/

namespace Appraisal

inductive LedgerError
  | closed
  | noTable
  /-- A filter with too many letters. -/
  | longFilter
  /-- A row without a value that it must have. -/
  | incompleteRow
  /-- An amount that has no double. -/
  | unstorable
  /-- A datum of a kind that rows do not keep. -/
  | unsupported
  /-- A scope that its user gave up. -/
  | abandoned (why : Report)
  | fault (f : Fault)

namespace LedgerError

def report : LedgerError → Report
  | closed => .plain "RuntimeError" "Engine not initialized. Call init_engine_from_url() first."
  | noTable => .silent "OperationalError"
  | longFilter => .silent "OperationalError"
  | incompleteRow => .silent "IntegrityError"
  | unstorable => .silent "StatementError"
  | unsupported => .silent "ProgrammingError"
  | abandoned why => why
  | fault f => f.report

end LedgerError

namespace Row

def places : Nat := 9

/-- A decimal as it comes back. The zeros of both signs are one. -/
def decimal (d : Decimal) : Except LedgerError Decimal :=
  match d.toFloat? with
  | none => .error .unstorable
  | some x =>
      if x.isNaN then .error .incompleteRow
      else .ok ((Decimal.read? (fixedText places (if x == 0 then 0 else x))).getD .zero)

def digits : Nat := 15

def pointed (numeral : List Char) : List Char :=
  let mantissa := numeral.takeWhile (· != 'e')
  mantissa ++ (if mantissa.contains '.' then [] else ['.', '0']) ++ numeral.dropWhile (· != 'e')

/-- A double in the place of a text. The zeros of both signs are one. -/
def numeral (x : Float) : String :=
  match Binary.ofFloat x with
  | .infinite negative => if negative then "-Inf" else "Inf"
  | _ =>
      let (negative, cs) := PrecisionRule.general.chars digits false (if x == 0 then 0 else x)
      String.ofList ((if negative then ['-'] else []) ++ pointed cs)

/-- Whole numbers are kept in 64 bits. -/
def holds (n : Int) : Bool := decide (-(twoPow 63 : Int) ≤ n ∧ n < (twoPow 63 : Int))

def encoded (t : Text) : Except LedgerError Text :=
  if t.toList.any Letter.isSurrogate then .error (.fault (.refusal (.unencodable t))) else .ok t

def text : Datum → Except LedgerError Text
  | .null => .ok ""
  | .text t => encoded t
  | .truth b => .ok (intText b.toNat)
  | .whole n =>
      if holds n then .ok (intText n)
      else
        .error (.fault (.refusal
          (.stated .range "Python int too large to convert to SQLite INTEGER")))
  | .double x => if x.isNaN then .error .incompleteRow else .ok (numeral x)
  | _ => .error .unsupported

/-- The posting that comes back for a draft. Texts are taken in front of amounts. -/
def ofDraft (d : Draft) : Except LedgerError Posting := do
  if d.isUnstorable then throw .unstorable
  let account ← text d.account
  let note ← text d.note
  let transactionNote ← text d.transactionNote
  let commodity ← text d.commodity
  let amount ← decimal d.amount
  let quantity ← decimal d.quantity
  if h : account = "" then throw .incompleteRow
  else return ⟨account, amount, d.date, quantity, note, transactionNote, commodity, h⟩

theorem eq_of_encoded {s t : Text} (h : encoded s = .ok t) :
    s = t ∧ ∀ l ∈ t.toList, l.isSurrogate = false := by
  unfold encoded at h
  split at h
  · cases h
  · rename_i none_
    injection h with h
    subst h
    simpa using none_

end Row

end Appraisal
