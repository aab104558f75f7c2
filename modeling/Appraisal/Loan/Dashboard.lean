import Appraisal.Ledger.Draft
import Appraisal.Loan.Alert
import Appraisal.Loan.Listing
import Appraisal.Loan.Summary
import Appraisal.Valuation.Store

/-!
# The dashboard

Loans, their summary and their alerts, all from one list of loans, and all of them as data for JSON:
decimals and dates are given as texts. A number of days that is zero is left out of an alert.

The service of loans is set up once over a store of configurations and then asked for dashboards again
and again. Each request reads the rules that are in the store by then. The currency is the one that the
store had when the service was set up.
-/

namespace Appraisal

/-! ### Payloads -/

def Posting.payload (p : Posting) : Datum := p.draft.payload

def Loan.payload (l : Loan) : Datum :=
  .object
    [("account", .text l.account), ("principal", .text l.principal.text),
     ("current_value", .text l.currentValue.text), ("gain_amount", .text l.gain.text),
     ("interest_rate", .double l.interestRate), ("period", .text l.period),
     ("start_date", .text l.start.text),
     ("maturity_date", (l.maturity.map (fun d => Datum.text d.text)).getD .null),
     ("days_to_maturity", .whole l.daysToMaturity), ("days_held", .whole l.daysHeld),
     ("status", .text l.status.name), ("risk_level", .text l.risk),
     ("percent_complete", .double l.percentComplete), ("currency", .text l.currency),
     ("postings", .list (l.postings.map Posting.payload))]

def Tally.payload (t : Tally) : Datum :=
  .object [("count", .whole t.count), ("amount", .text t.amount.text)]

def Summary.payload (s : Summary) : Datum :=
  .object
    [("total_lent", .text s.totalLent.text), ("total_value", .text s.totalValue.text),
     ("total_gain", .text s.totalGain.text), ("total_accounts", .whole s.totalAccounts),
     ("currency", .text s.currency),
     ("by_status", .object (s.byStatus.map (fun e => (e.1.name, e.2.payload)))),
     ("by_risk", .object (s.byRisk.map (fun e => (e.1, e.2.payload))))]

def AlertKind.daysKey : AlertKind → String
  | overdue => "days_overdue"
  | maturing => "days_to_maturity"

def Alert.payload (a : Alert) : Datum :=
  let days : List (Text × Datum) := if a.days = 0 then [] else [(a.kind.daysKey, .whole a.days)]
  let always : List (Text × Datum) :=
    [("type", .text a.kind.name), ("severity", .text a.kind.severity), ("account", .text a.account),
     ("message", .text a.message), ("amount", .text a.amount.text)]
  .object (always ++ days)

/-! ### The dashboard -/

structure Dashboard where
  loans : List Loan
  summary : Summary
  alerts : List Alert

namespace Dashboard

open Journaled

variable {ε : Type} (fault : Fault → ε) (source : Text → Journaled ε (List Posting))

def compute (t : Loan.ListingTerms) : Journaled ε Dashboard := do
  let loans ← Loan.list fault source t
  let summary ← mapFault fault (Summary.compute loans t.currency)
  let alerts ← Alert.build loans
  return ⟨loans, summary, alerts⟩

def payload (d : Dashboard) : Datum :=
  .object
    [("loans", .list (d.loans.map Loan.payload)), ("summary", d.summary.payload),
     ("alerts", .list (d.alerts.map Alert.payload))]

end Dashboard

/-! ### The service -/

structure LoanService where
  currency : Text
  /-- The days before maturity in which a loan counts as maturing. -/
  window : Int

namespace LoanService

def setUp (s : ConfigurationStore) (window : Int := Loan.defaultWindow) : LoanService :=
  ⟨s.current.currency, window⟩

def terms (service : LoanService) (s : ConfigurationStore) (now : Moment) : Loan.ListingTerms :=
  ⟨s.current.rules, now, service.currency, service.window⟩

def dashboard {ε : Type} (fault : Fault → ε) (source : Text → Journaled ε (List Posting))
    (service : LoanService) (s : ConfigurationStore) (now : Moment) : Journaled ε Dashboard :=
  Dashboard.compute fault source (service.terms s now)

end LoanService

end Appraisal
