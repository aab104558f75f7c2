import Appraisal.Calendar.Moment
import Appraisal.Decimal.Text

/-!
# Data of unknown shape

Documents, request bodies, log fields and the literals of trees built by hand hold data whose kind is
known only when they are read. A datum is one of the kinds that can occur there. Mappings keep the
order in which their keys were first given.
-/

namespace Appraisal

inductive Datum
  | null
  | truth (b : Bool)
  | whole (n : Int)
  | double (x : Float)
  | decimal (d : Decimal)
  | text (t : Text)
  /-- A named member of an enumeration of texts. -/
  | member (kind name value : String)
  | date (d : Date)
  | moment (t : Moment)
  | uuid (n : Nat)
  | list (items : List Datum)
  | tuple (items : List Datum)
  | map (entries : List (Datum × Datum))
  deriving Inhabited

namespace Datum

def kindName : Datum → String
  | null => "NoneType"
  | truth _ => "bool"
  | whole _ => "int"
  | double _ => "float"
  | decimal _ => "Decimal"
  | text _ => "str"
  | member kind _ _ => kind
  | date _ => "date"
  | moment _ => "datetime"
  | uuid _ => "UUID"
  | list _ => "list"
  | tuple _ => "tuple"
  | map _ => "dict"

def isNull : Datum → Bool
  | null => true
  | _ => false

def isTruth : Datum → Bool
  | truth _ => true
  | _ => false

/-- Does a datum count as given? Nothing, false, zero and the empty data do not. -/
def isGiven : Datum → Bool
  | null => false
  | truth b => b
  | whole n => n != 0
  | double x => !(x == 0)
  | decimal (.finite _ c _) => c != 0
  | text t => !t.isEmpty
  | member _ _ value => value != ""
  | list items => !items.isEmpty
  | tuple items => !items.isEmpty
  | map entries => !entries.isEmpty
  | _ => true

def object (fields : List (Text × Datum)) : Datum :=
  map (fields.map (fun f => (text f.1, f.2)))

def asText? : Datum → Option Text
  | text t => some t
  | member _ _ value => some value
  | _ => none

def lookup? (key : Text) : List (Datum × Datum) → Option Datum
  | [] => none
  | (k, v) :: rest => if k.asText? = some key then some v else lookup? key rest

/-- The value of a field; a missing field is null. -/
def field (entries : List (Datum × Datum)) (key : Text) : Datum :=
  (lookup? key entries).getD null

def quantity? : Datum → Option Quantity
  | whole n => some (.whole n)
  | double x => some (.double x)
  | _ => none

def ofQuantity : Quantity → Datum
  | .whole n => whole n
  | .double x => double x

def hyphenated (ds : List Char) : List Char :=
  ds.take 8 ++ '-' :: (ds.drop 8).take 4 ++ '-' :: (ds.drop 12).take 4 ++
    '-' :: (ds.drop 16).take 4 ++ '-' :: ds.drop 20

end Datum

end Appraisal
