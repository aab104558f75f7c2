import Appraisal.Datum.Basic
import Appraisal.Ledger.Posting
import Appraisal.Sorting

/-!
# Loans

An account whose postings are seen as a loan at one instant. A loan is never stored: it is derived
from the postings each time it is asked for. It is closed, or it is open and active, or its maturity
is near or past. Loans that need attention come first in every list.
-/

namespace Appraisal

/-! ### Status -/

inductive LoanStatus
  | active
  | maturing
  | overdue
  | closed
  deriving DecidableEq, Repr

namespace LoanStatus

def name : LoanStatus → String
  | active => "active"
  | maturing => "maturing"
  | overdue => "overdue"
  | closed => "closed"

def label : LoanStatus → String
  | active => "ACTIVE"
  | maturing => "MATURING"
  | overdue => "OVERDUE"
  | closed => "CLOSED"

def all : List LoanStatus := [active, maturing, overdue, closed]

def ofName? (s : Text) : Option LoanStatus :=
  all.find? (fun status => status.name = s)

def rank : LoanStatus → Nat
  | overdue => 0
  | maturing => 1
  | active => 2
  | closed => 3

def ofDaysLeft (window days : Int) : LoanStatus :=
  if days < 0 then overdue else if days ≤ window then maturing else active

def kindName : String := "LoanStatus"

def datum (s : LoanStatus) : Datum := .member kindName s.label s.name

end LoanStatus

/-! ### Loans -/

structure Loan where
  account : Text
  /-- The sum of what was lent. -/
  principal : Decimal
  currentValue : Decimal
  gain : Decimal
  interestRate : Float
  period : Text
  start : Date
  /-- Given only for an open loan with a target duration. -/
  maturity : Option Date
  daysToMaturity : Int
  daysHeld : Int
  status : LoanStatus
  risk : Text
  percentComplete : Float
  /-- The postings by date. -/
  postings : List Posting
  currency : Text

namespace Loan

def isClosed (l : Loan) : Bool := l.status = .closed

def daysOverdue (l : Loan) : Int :=
  if l.status = .overdue then -l.daysToMaturity else 0

def before (a b : Loan) : Bool :=
  a.status.rank < b.status.rank || (a.status.rank == b.status.rank && a.account.before b.account)

def listed (loans : List Loan) : List Loan := sorted before loans

end Loan

end Appraisal
