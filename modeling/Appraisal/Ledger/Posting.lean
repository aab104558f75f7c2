import Appraisal.Datum.Display

/-!
# Postings

One dated, signed entry against an account of a ledger. The amount is in the currency of the ledger;
the quantity counts units of the commodity. The note of the posting and the note of its transaction
are kept apart.
-/

namespace Appraisal

structure Posting where
  account : Text
  amount : Decimal
  date : Date
  quantity : Decimal
  note : Text
  transactionNote : Text
  commodity : Text
  account_ne : account ≠ ""

inductive PostingError
  | emptyAccount
  | doubleAmount (field shown : String)
  | invalidAmount (field shown : String)
  deriving DecidableEq, Repr

namespace PostingError

def message : PostingError → String
  | emptyAccount => "Posting account must not be empty"
  | doubleAmount field shown => field ++ " must not be a float: " ++ shown
  | invalidAmount field shown => "Invalid " ++ field ++ ": " ++ shown

end PostingError

namespace Posting

/-- A decimal as it is, or the decimal that a datum writes. Doubles are refused, since they do not
hold decimal amounts. -/
def decimalOf (field : String) : Datum → Except PostingError Decimal
  | .decimal d => .ok d
  | .double x => .error (.doubleAmount field (Datum.double x).shown)
  | d =>
      match Decimal.read? d.display with
      | some d => .ok d
      | none => .error (.invalidAmount field d.shown)

def ofData (account : Text) (amount : Datum) (date : Date) (quantity : Datum := .decimal .one)
    (note : Text := "") (transactionNote : Text := "") (commodity : Text := "") :
    Except PostingError Posting :=
  if h : account = "" then .error .emptyAccount
  else do
    let amount ← decimalOf "amount" amount
    let quantity ← decimalOf "quantity" quantity
    return ⟨account, amount, date, quantity, note, transactionNote, commodity, h⟩

def shown (p : Posting) : String :=
  "Posting(" ++ Datum.commaSeparated
    ["account=" ++ p.account.quoted, "amount=" ++ (Datum.decimal p.amount).shown,
     "date=" ++ (Datum.date p.date).shown, "quantity=" ++ (Datum.decimal p.quantity).shown,
     "note=" ++ p.note.quoted, "transaction_note=" ++ p.transactionNote.quoted,
     "commodity=" ++ p.commodity.quoted] ++ ")"

def isPositive (p : Posting) : Except DecimalError Bool :=
  (Decimal.order p.amount .zero).map (· == .gt)

end Posting

end Appraisal
