import Appraisal.Decimal.Arithmetic
import Appraisal.Journal.Trace
import Appraisal.Loan.Basic

/-!
# Summary of loans

Totals over a list of loans, and the number of loans and what was lent for each status and each level
of risk. Only what occurs is listed, in the order in which it first occurs.
-/

namespace Appraisal

structure Tally where
  count : Nat
  amount : Decimal

namespace Tally

def empty : Tally := ⟨0, .zero⟩

def add (t : Tally) (amount : Decimal) : Except DecimalError Tally := do
  let total ← t.amount.add amount
  return ⟨t.count + 1, total⟩

end Tally

/-- Adds an amount to the tally of a key, which is begun when there is none. -/
def addTally {κ : Type} [DecidableEq κ] (key : κ) (amount : Decimal) :
    List (κ × Tally) → Except DecimalError (List (κ × Tally))
  | [] => (Tally.empty.add amount).map (fun t => [(key, t)])
  | (k, t) :: rest =>
      if k = key then (t.add amount).map (fun t => (k, t) :: rest)
      else (addTally key amount rest).map ((k, t) :: ·)

structure Summary where
  totalLent : Decimal
  totalValue : Decimal
  totalGain : Decimal
  totalAccounts : Nat
  byStatus : List (LoanStatus × Tally)
  byRisk : List (Text × Tally)
  currency : Text

namespace Summary

def empty (currency : Text) : Summary := ⟨.zero, .zero, .zero, 0, [], [], currency⟩

def add (s : Summary) (l : Loan) : Except DecimalError Summary := do
  let lent ← s.totalLent.add l.principal
  let value ← s.totalValue.add l.currentValue
  let gain ← s.totalGain.add l.gain
  let byStatus ← addTally l.status l.principal s.byStatus
  let byRisk ← addTally l.risk l.principal s.byRisk
  return ⟨lent, value, gain, s.totalAccounts + 1, byStatus, byRisk, s.currency⟩

def ofLoans (loans : List Loan) (currency : Text := "") : Except DecimalError Summary :=
  loans.foldlM add (empty currency)

def engine : Journal.Engine where
  name := "loan_summary"
  version := "1.0"
  fields := ["currency"]
  function := "summarize_loans"

def compute (loans : List Loan) (currency : Text) : Journaled Fault Summary :=
  engine.traced [("currency", .text currency)]
    (Journaled.lift ((ofLoans loans currency).mapError .decimal))

end Summary

end Appraisal
