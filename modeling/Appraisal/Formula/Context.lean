import Appraisal.Calendar.Moment
import Appraisal.Datum.Conversion
import Appraisal.Formula.Kind
import Appraisal.Ledger.Draft

/-!
# Evaluation contexts

The values of the variables that a formula sees, made from one posting and the instant at which it is
valued, or from sample values.
-/

namespace Appraisal.Formula

structure VariableDoc where
  name : String
  kind : Kind
  description : String

def variableDocs : List VariableDoc :=
  [⟨"amount", .number, "Posting amount in default currency"⟩,
   ⟨"quantity", .number, "Number of units"⟩,
   ⟨"date", .date, "Posting date"⟩,
   ⟨"days_held", .number, "Days since posting date"⟩,
   ⟨"months_held", .number, "Months since posting date"⟩,
   ⟨"years_held", .number, "Years since posting date"⟩,
   ⟨"note", .string, "Transaction note"⟩,
   ⟨"account", .string, "Account name"⟩,
   ⟨"commodity", .string, "Commodity name"⟩]

def postingSchema : Schema := variableDocs.map (fun v => (v.name, v.kind))

/-- What the variables of a formula stand for. -/
abbrev Environment := Text → Option Datum

/-- The environment in which some of the known variables stand for other data. -/
def Environment.replacing (e : Environment) (values : List (Text × Datum)) : Environment :=
  fun name =>
    (e name).map (fun d => ((values.find? (fun v => v.1 = name)).map Prod.snd).getD d)

structure Context where
  amount : Float
  quantity : Float
  date : Date
  daysHeld : Float
  monthsHeld : Float
  yearsHeld : Float
  note : Text
  account : Text
  commodity : Text

namespace Context

def daysPerMonth : Float := 30.44

def daysPerYear : Float := 365.25

def values (c : Context) : List (Text × Datum) :=
  [("amount", .double c.amount), ("quantity", .double c.quantity), ("date", .date c.date),
   ("days_held", .double c.daysHeld), ("months_held", .double c.monthsHeld),
   ("years_held", .double c.yearsHeld), ("note", .text c.note), ("account", .text c.account),
   ("commodity", .text c.commodity)]

def lookup? (c : Context) : Environment := fun name => c.values.lookup name

/-- The days from the midnight that starts a date to an instant, with the part of a day that has
passed. The seconds are rounded to a double, and so is their quotient. -/
def heldDays (start : Date) (instant : Moment) : Float :=
  Binary.scale (Span.seconds (Moment.microsSince start instant)) 1 secondsPerDay

def make (amount quantity : Float) (date : Date) (daysHeld : Float)
    (note account commodity : Text) : Context :=
  ⟨amount, quantity, date, daysHeld, daysHeld / daysPerMonth, daysHeld / daysPerYear, note, account,
    commodity⟩

def ofAmounts (amount quantity : Decimal) (date : Date) (instant : Moment)
    (note account commodity : Text) : Except Fault Context := do
  let amount ← Datum.decimalFloat amount
  let quantity ← Datum.decimalFloat quantity
  return make amount quantity date (heldDays date instant) note account commodity

/-- The context of a posting at an instant. The note is that of the transaction. -/
def ofPosting (p : Posting) (instant : Moment) : Except Fault Context :=
  ofAmounts p.amount p.quantity p.date instant p.transactionNote p.account p.commodity

def ofDraft (d : Draft) (instant : Moment) : Except Fault Environment := do
  let c ← ofAmounts d.amount d.quantity d.date instant "" "" ""
  return c.lookup?.replacing
    [("note", d.transactionNote), ("account", d.account), ("commodity", d.commodity)]

/-- What a formula is tried with when there is no posting. -/
structure Sample where
  amount : Datum := .double 10000
  daysHeld : Datum := .double 30
  note : Text := "sample note Int:12 Per:M"
  account : Text := "Assets:Test"
  commodity : Text := "INR"
  quantity : Datum := .double 1
  date : Date := .newYear2024

/-- The context of sample values, whose numbers may be given in any form that writes a number. -/
def ofSample (s : Sample) : Except Fault Context := do
  let amount ← s.amount.toFloat
  let quantity ← s.quantity.toFloat
  let daysHeld ← s.daysHeld.toFloat
  return make amount quantity s.date daysHeld s.note s.account s.commodity

end Context

end Appraisal.Formula
