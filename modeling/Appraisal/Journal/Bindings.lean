import Appraisal.Datum.Basic

/-!
# Bindings

Every record of a journal carries the fields that are bound when it is written: the request, the rule,
the account and the trace it belongs to. A block binds fields for as long as it runs and gives them
back the values they had before it.
-/

namespace Appraisal.Journal

inductive BoundField
  | request
  | rule
  | account
  | trace
  deriving DecidableEq, Repr

namespace BoundField

def all : List BoundField := [request, rule, account, trace]

def name : BoundField → String
  | request => "request_id"
  | rule => "rule_name"
  | account => "account"
  | trace => "trace_id"

def ofName? (s : Text) : Option BoundField :=
  all.find? (fun f => f.name = s)

end BoundField

def Bindings := BoundField → Option Datum

/-- Fields with the values they are to have; no value leaves a field as it is. -/
abbrev Assignments := List (BoundField × Option Datum)

/-- The assignments among some named values. Other names and null say nothing. -/
def Assignments.ofFields (fields : List (Text × Datum)) : Assignments :=
  fields.filterMap (fun f =>
    (BoundField.ofName? f.1).map (fun b => (b, if f.2.isNull then none else some f.2)))

namespace Bindings

def empty : Bindings := fun _ => none

def update (b : Bindings) (f : BoundField) (value : Option Datum) : Bindings :=
  fun g => if g = f then value else b g

def assign (b : Bindings) (fields : Assignments) : Bindings :=
  fields.foldl (fun b f => if f.2.isSome then b.update f.1 f.2 else b) b

def toList (b : Bindings) : List (Text × Datum) :=
  BoundField.all.filterMap (fun f => (b f).map (fun v => (f.name, v)))

/-- The values that a block has to give back when it ends. -/
def saved (b : Bindings) (fields : Assignments) : Assignments :=
  (fields.filter (fun f => f.2.isSome)).map (fun f => (f.1, b f.1))

def restore (b : Bindings) (saved : Assignments) : Bindings :=
  saved.foldl (fun b f => b.update f.1 f.2) b

end Bindings

end Appraisal.Journal
