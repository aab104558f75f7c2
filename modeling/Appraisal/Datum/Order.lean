import Appraisal.Datum.Equality
import Appraisal.Sorting

/-!
# Order of data

Texts, numbers, dates, moments and identifiers are ordered among their own kind, lists and tuples
item by item. Entries of a mapping are sorted by their keys; keys of different kinds have no order,
and a decimal that is no number has none either.
-/

namespace Appraisal.Datum

inductive OrderError
  /-- They are of kinds that are not ordered with each other. -/
  | unordered
  | decimal (why : DecimalError)
  deriving DecidableEq, Repr

def isDecimal : Datum → Bool
  | decimal _ => true
  | _ => false

/-- Is a number below another one? A double that is no number is below none and above none. -/
def numberBefore (a b : Datum) : Except OrderError Bool :=
  match a.number?, b.number? with
  | some n, some m =>
      if (a.isDecimal || b.isDecimal) && (n.isNaN || m.isNaN) then .error (.decimal .invalid)
      else .ok (Decimal.compare? n m == some .lt)
  | _, _ => .error .unordered

def textBefore (s : Text) (b : Datum) : Except OrderError Bool :=
  match b.asText? with
  | some t => .ok (s.before t)
  | none => .error .unordered

mutual

def before (a b : Datum) : Except OrderError Bool :=
  match a with
  | text s => textBefore s b
  | member _ _ s => textBefore s b
  | date d => match b with
      | date e => .ok (decide (d.day < e.day))
      | _ => .error .unordered
  | moment t => match b with
      | moment u =>
          if t.offset.isSome == u.offset.isSome then .ok (decide (t.instant < u.instant))
          else .error .unordered
      | _ => .error .unordered
  | uuid n => match b with | uuid m => .ok (decide (n < m)) | _ => .error .unordered
  | list xs => match b with | list ys => beforeItems xs ys | _ => .error .unordered
  | tuple xs => match b with | tuple ys => beforeItems xs ys | _ => .error .unordered
  | truth v => numberBefore (truth v) b
  | whole v => numberBefore (whole v) b
  | double v => numberBefore (double v) b
  | decimal v => numberBefore (decimal v) b
  | null => .error .unordered
  | map _ => .error .unordered

def beforeItems : List Datum → List Datum → Except OrderError Bool
  | [], ys => .ok (!ys.isEmpty)
  | _ :: _, [] => .ok false
  | x :: xs, y :: ys => do
      if ← (equal x y).mapError .decimal then beforeItems xs ys else before x y

end

/-- Is the key of one entry before that of another? Equal keys do not occur in one mapping. -/
def keyBefore {α : Type} (a b : Datum × α) : Except OrderError Bool := do
  let _ ← (equal a.1 b.1).mapError .decimal
  before a.1 b.1

/-- The entries in the order of their keys, if the keys have one. Texts always have; other keys are
compared pair by pair. -/
def sortedEntries {α : Type} (entries : List (Datum × α)) :
    Except OrderError (List (Datum × α)) :=
  match entries.mapM (fun e => e.1.asText?.map (fun s => (s, e))) with
  | some labelled => .ok ((sorted (fun a b => a.1.before b.1) labelled).map Prod.snd)
  | none => sortedBy keyBefore entries

end Appraisal.Datum
