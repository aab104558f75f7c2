import Appraisal.Journal.Writing
import Appraisal.Loan.Basic

/-!
# Alerts

A notice for each loan that is overdue or about to mature. Overdue loans come first; within one
severity the loans keep their order.
-/

namespace Appraisal

inductive AlertKind
  | overdue
  | maturing
  deriving DecidableEq, Repr

namespace AlertKind

def name : AlertKind → String
  | overdue => "overdue"
  | maturing => "maturing"

def severity : AlertKind → String
  | overdue => "high"
  | maturing => "medium"

def rank : AlertKind → Nat
  | overdue => 0
  | maturing => 1

end AlertKind

structure Alert where
  kind : AlertKind
  account : Text
  amount : Decimal
  /-- The days past maturity, or the days to it. -/
  days : Int

namespace Alert

def daysText (n : Int) : String :=
  intText n ++ (if n = 1 then " day" else " days")

def message (a : Alert) : String :=
  match a.kind with
  | .overdue => "Loan overdue by " ++ daysText a.days
  | .maturing => "Loan matures in " ++ daysText a.days

def ofLoan? (l : Loan) : Option Alert :=
  match l.status with
  | .overdue => some ⟨.overdue, l.account, l.principal, l.daysOverdue⟩
  | .maturing => some ⟨.maturing, l.account, l.principal, l.daysToMaturity⟩
  | _ => none

def ofLoans (loans : List Loan) : List Alert :=
  sorted (fun a b => a.kind.rank < b.kind.rank) (loans.filterMap ofLoan?)

def build {ε : Type} (loans : List Loan) : Journaled ε (List Alert) := do
  let alerts := ofLoans loans
  Journaled.note Journal.debugLevel "engines.aggregation" "loan_alerts_built"
    [("alert_count", .whole alerts.length),
     ("high", .whole (alerts.filter (fun a => a.kind = .overdue)).length)]
  return alerts

end Alert

end Appraisal
