import Appraisal.Fault
import Appraisal.Ledger.Posting

/-!
# Drafts of postings

A posting as it is handed over: its amounts and its date are known, its texts may be data of any kind.
Only a draft whose texts are texts is a posting.
-/

namespace Appraisal

structure Draft where
  account : Datum
  amount : Decimal
  date : Date
  quantity : Decimal := .one
  note : Datum := .text ""
  transactionNote : Datum := .text ""
  commodity : Datum := .text ""

namespace Draft

def ofData (account amount : Datum) (date : Date) (quantity : Datum := .decimal .one)
    (note transactionNote commodity : Datum := .text "") : Except PostingError Draft :=
  if account.isGiven then do
    let amount ← Posting.decimalOf "amount" amount
    let quantity ← Posting.decimalOf "quantity" quantity
    return ⟨account, amount, date, quantity, note, transactionNote, commodity⟩
  else .error .emptyAccount

/-- Does a draft add to its account? An amount that is no number has no order. -/
def isPositive (d : Draft) : Except DecimalError Bool :=
  (Decimal.order d.amount .zero).map (· == .gt)

def isUnstorable (d : Draft) : Bool := d.amount.isSignaling || d.quantity.isSignaling

def posting (d : Draft) : Except Fault Posting :=
  match d.account.asText?, d.note.asText?, d.transactionNote.asText?, d.commodity.asText? with
  | some account, some note, some transactionNote, some commodity =>
      if h : account = "" then .error .mismatch
      else .ok ⟨account, d.amount, d.date, d.quantity, note, transactionNote, commodity, h⟩
  | _, _, _, _ => .error .mismatch

def payload (d : Draft) : Datum :=
  .object
    [("account", d.account), ("amount", .text d.amount.text), ("quantity", .text d.quantity.text),
     ("date", .text d.date.text), ("note", d.note), ("transaction_note", d.transactionNote),
     ("commodity", d.commodity)]

end Draft

def Posting.draft (p : Posting) : Draft :=
  ⟨.text p.account, p.amount, p.date, p.quantity, .text p.note, .text p.transactionNote,
    .text p.commodity⟩

end Appraisal
