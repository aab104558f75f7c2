import Appraisal.Decimal.Arithmetic
import Appraisal.Formula.Context
import Appraisal.Journal.Trace
import Appraisal.Loan.Basic
import Appraisal.Note.Terms

/-!
# Deriving a loan

The postings of one account, what each of them is worth now and an instant give a loan. What was lent
is the sum of the positive amounts. A loan is closed when one of its notes says so or when it is worth
nothing any more; it then stands at the plain sum of its amounts. An open loan with a target duration
matures that many days after its first posting. Its terms are those that the note of its first
transaction declares.
-/

namespace Appraisal

namespace Loan

def defaultWindow : Int := 30

/-- Postings by date; those of one day keep their order. -/
def chronological (ps : List Posting) : List Posting :=
  sorted (fun p q => decide (p.date.day < q.date.day)) ps

def isMarkedClosed (ps : List Posting) : Bool :=
  ps.any (fun p => Note.hasCloseMarker [p.transactionNote, p.note])

def principalOf (ps : List Posting) : Except DecimalError Decimal :=
  ps.foldlM (fun total p => do
    if ← p.isPositive then total.add p.amount else return total) .zero

def rawBalance (ps : List Posting) : Except DecimalError Decimal :=
  Decimal.sum (ps.map Posting.amount)

/-- Whole days from a date to an instant, cut off toward zero. -/
def wholeDays (start : Date) (now : Moment) : Except Fault Int :=
  (truncateInt (Formula.Context.heldDays start now)).mapError (fun e => .refusal (.notIntegral e))

def maturityOf (start : Date) (targetDays : Int) : Except Fault Date := do
  let _ ← (Span.ofDays (.whole targetDays)).mapError (fun e => Fault.refusal (.time e))
  match start.plusDays? targetDays with
  | some d => return d
  | none => throw (.refusal (.time .outOfRange))

def clampPercent (x : Float) : Float :=
  let capped := if x < 100 then x else 100
  if 0 < capped then capped else 0

def percentOf (daysHeld targetDays : Int) : Float :=
  clampPercent (floatOfRatio daysHeld targetDays.toNat * 100)

structure Progress where
  status : LoanStatus
  maturity : Option Date
  daysToMaturity : Int
  percentComplete : Float

def progress (closed : Bool) (start : Date) (targetDays daysHeld : Int) (now : Moment)
    (window : Int) : Except Fault Progress := do
  if closed then return ⟨.closed, none, 0, 100⟩
  else if 0 < targetDays then
    let maturity ← maturityOf start targetDays
    let past ← wholeDays maturity now
    return ⟨.ofDaysLeft window (-past), some maturity, -past, percentOf daysHeld targetDays⟩
  else return ⟨.active, none, 0, 0⟩

def isNothing (value : Decimal) : Except Fault Bool :=
  ((Decimal.order value .zero).map (· != .gt)).mapError .decimal

/-- What a loan has gained. A closed loan that stands at zero has gained nothing. -/
def gainOf (closed : Bool) (currentValue principal raw : Decimal) : Except Fault Decimal := do
  let gain ← (currentValue.sub principal).mapError Fault.decimal
  if closed then
    let settled ← (raw.equal .zero).mapError Fault.decimal
    return if settled then .zero else gain
  else return gain

def ofSums (account currency : Text) (first : Posting) (postings : List Posting)
    (principal raw value : Decimal) (now : Moment) (window : Int) : Except Fault Loan := do
  let nothing ← isNothing value
  let closed := isMarkedClosed postings || nothing
  let terms ← (Note.Terms.ofNote first.transactionNote).mapError
    (fun e => Fault.refusal (.notIntegral e))
  let daysHeld ← wholeDays first.date now
  let progress ← progress closed first.date terms.targetDays daysHeld now window
  let currentValue := if closed then raw else value
  let gain ← gainOf closed currentValue principal raw
  return {
    account, principal, currentValue, gain, currency, postings, daysHeld
    interestRate := terms.interestRate
    period := terms.period
    start := first.date
    maturity := progress.maturity
    daysToMaturity := progress.daysToMaturity
    status := progress.status
    risk := terms.risk.name
    percentComplete := progress.percentComplete }

section

variable {m : Type → Type} [Monad m] [MonadExceptOf Fault m]

def given {α : Type} : Except Fault α → m α
  | .ok a => pure a
  | .error e => throw e

def valueSum (valueOf : Posting → m Decimal) (ps : List Posting) : m Decimal :=
  ps.foldlM (fun total p => do
    let value ← valueOf p
    given ((total.add value).mapError .decimal)) .zero

/-- The loan of an account at an instant; there is none without postings. What a posting is worth is
not asked of a loan that is marked as closed. -/
def ofPostings? (account : Text) (ps : List Posting) (now : Moment)
    (valueOf : Posting → m Decimal) (currency : Text := "") (window : Int := defaultWindow) :
    m (Option Loan) :=
  match chronological ps with
  | [] => pure none
  | first :: rest => do
      let postings := first :: rest
      let principal ← given ((principalOf postings).mapError .decimal)
      let raw ← given ((rawBalance postings).mapError .decimal)
      let value ← if isMarkedClosed postings then pure raw else valueSum valueOf postings
      let loan ← given (ofSums account currency first postings principal raw value now window)
      return some loan

end

def engine : Journal.Engine where
  name := "loan_deriver"
  version := "1.0"
  fields := ["account", "postings", "now"]
  function := "LoanDeriver.derive"

def recordDerived (l : Loan) : Journaled Fault Unit :=
  Journaled.note Journal.debugLevel "engines.loans" "loan_derived"
    [("account", .text l.account), ("status", .text l.status.name),
     ("principal", .decimal l.principal), ("current_value", .decimal l.currentValue),
     ("days_held", .whole l.daysHeld), ("days_to_maturity", .whole l.daysToMaturity),
     ("explicit_close", .truth (isMarkedClosed l.postings)),
     ("posting_count", .whole l.postings.length)]

def derive? (account : Text) (ps : List Posting) (now : Moment)
    (valueOf : Posting → Journaled Fault Decimal) (currency : Text := "")
    (window : Int := defaultWindow) : Journaled Fault (Option Loan) :=
  engine.traced
    [("account", .text account), ("postings", .list (ps.map (fun p => .text p.shown))), ("now", .moment now)]
    (do
      let loan ← ofPostings? account ps now valueOf currency window
      match loan with
      | none => return none
      | some l => do
          recordDerived l
          return some l)

end Loan

end Appraisal
