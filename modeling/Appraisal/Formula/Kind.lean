import Appraisal.Datum.Basic

/-!
# Kinds of formula values

Every value that a formula computes with is a number, a string, a truth value or a date. All other
data are foreign to formulas.
-/

namespace Appraisal

inductive Kind
  | number
  | string
  | boolean
  | date
  deriving DecidableEq, Repr

namespace Kind

def name : Kind → String
  | number => "number"
  | string => "string"
  | boolean => "boolean"
  | date => "date"

def ofName? (s : Text) : Option Kind :=
  [number, string, boolean, date].find? (fun k => k.name = s)

theorem ofName?_name (k : Kind) : ofName? k.name = some k := by
  cases k <;> decide

def isOrdered : Kind → Bool
  | boolean => false
  | _ => true

end Kind

abbrev Formula.Schema := List (Text × Kind)

namespace Datum

/-- The kind of a value; foreign data have none. -/
def kind? : Datum → Option Kind
  | truth _ => some .boolean
  | whole _ => some .number
  | double _ => some .number
  | text _ => some .string
  | member .. => some .string
  | date _ => some .date
  | moment _ => some .date
  | _ => none

def isOf (k : Kind) (d : Datum) : Bool :=
  d.kind? = some k

def described (d : Datum) : String :=
  match d.kind? with
  | some k => k.name
  | none => d.kindName

end Datum

end Appraisal
