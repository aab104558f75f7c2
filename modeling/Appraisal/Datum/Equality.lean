import Appraisal.Datum.Basic

/-!
# Equality of data

Numbers of all kinds, truth values among them, are equal when their exact values are. Everything else
equals only data of its own kind. Mappings are compared as sets of entries. Decimals that signal have
no answer.
-/

namespace Appraisal.Datum

/-- The exact value of a double as a decimal: a binary fraction is a decimal fraction with as many
places. -/
def exactDecimal (x : Float) : Decimal :=
  match Binary.ofFloat x with
  | .nan => .nan false false 0
  | .infinite s => .infinite s
  | .finite s m q =>
      if 0 ≤ q then .finite s (m * twoPow q.toNat) 0 else .finite s (m * Nat.pow 5 (-q).toNat) q

def number? : Datum → Option Decimal
  | truth b => some (Decimal.ofInt b.toNat)
  | whole n => some (Decimal.ofInt n)
  | double x => some (exactDecimal x)
  | decimal d => some d
  | _ => none

/-- Two moments whose zones are both known or both unknown are equal at one instant. -/
def sameMoment (a b : Moment) : Bool :=
  a.offset.isSome == b.offset.isSome && a.instant == b.instant

def equalNumber (n : Decimal) (b : Datum) : Except DecimalError Bool :=
  match b.number? with
  | some m => n.equal m
  | none => .ok false

mutual

/-- Are two data equal? A decimal that signals cannot be compared with a number. Items are compared
up to the first that differs. -/
def equal (a b : Datum) : Except DecimalError Bool :=
  match a with
  | null => match b with | null => .ok true | _ => .ok false
  | text s => .ok (b.asText? == some s)
  | member _ _ s => .ok (b.asText? == some ↑s)
  | date d => match b with | date e => .ok (decide (d = e)) | _ => .ok false
  | moment t => match b with | moment u => .ok (sameMoment t u) | _ => .ok false
  | uuid n => match b with | uuid m => .ok (n == m) | _ => .ok false
  | list xs => match b with
      | list ys => if xs.length = ys.length then equalItems xs ys else .ok false
      | _ => .ok false
  | tuple xs => match b with
      | tuple ys => if xs.length = ys.length then equalItems xs ys else .ok false
      | _ => .ok false
  | map xs => match b with
      | map ys => if xs.length = ys.length then equalEntries xs ys else .ok false
      | _ => .ok false
  | truth v => equalNumber (Decimal.ofInt v.toNat) b
  | whole v => equalNumber (Decimal.ofInt v) b
  | double v => equalNumber (exactDecimal v) b
  | decimal v => equalNumber v b

def equalItems : List Datum → List Datum → Except DecimalError Bool
  | x :: xs, y :: ys => do
      if ← equal x y then equalItems xs ys else return false
  | _, _ => .ok true

def equalEntries : List (Datum × Datum) → List (Datum × Datum) → Except DecimalError Bool
  | [], _ => .ok true
  | x :: xs, ys => do
      if ← equalEntry x ys then equalEntries xs ys else return false

def equalEntry : Datum × Datum → List (Datum × Datum) → Except DecimalError Bool
  | (k, v), ys =>
      match ys.find? (fun e => (equal k e.1).toOption == some true) with
      | some e => equal v e.2
      | none => .ok false

end

def same (a b : Datum) : Bool := (equal a b).toOption == some true

/-- Sets a key: an equal key that is there keeps its place and its form. -/
def setKey (entries : List (Datum × Datum)) (k v : Datum) : List (Datum × Datum) :=
  if entries.any (fun e => same k e.1) then
    entries.map (fun e => if same k e.1 then (e.1, v) else e)
  else entries ++ [(k, v)]

/-- The mapping of a list of pairs; a later pair replaces the value of an earlier equal key. -/
def ofPairs (pairs : List (Datum × Datum)) : Datum :=
  map (pairs.foldl (fun acc p => setKey acc p.1 p.2) [])

end Appraisal.Datum
