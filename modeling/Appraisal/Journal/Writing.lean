import Appraisal.Fault
import Appraisal.Journal.Record

/-!
# Writing a journal

A computation that writes records while it runs and can fail. What it wrote before it failed stays
written.
-/

namespace Appraisal

structure JournalState where
  bindings : Journal.Bindings
  /-- The records so far, the last one first. -/
  records : List Journal.Record

abbrev Journaled (ε : Type) := ExceptT ε (StateM JournalState)

namespace Journaled

open Journal

variable {ε δ α : Type}

def empty : JournalState := ⟨.empty, []⟩

/-- The outcome of a computation that writes a journal nobody reads. -/
def result (x : Journaled ε α) : Except ε α := (x.run empty).1

def note (level : Int) (logger message : Text) (fields : List (Text × Datum))
    (report : Option Report := none) : Journaled ε Unit :=
  modify (fun s =>
    let r : Record :=
      { level, logger := loggerName logger, message, bindings := s.bindings, fields, report }
    { s with records := r :: s.records })

def lift (x : Except ε α) : Journaled ε α :=
  ExceptT.mk (fun s => (x, s))

/-- Runs a computation with fields bound, and gives the fields their values back when it ends, however
it ends. -/
def bound (fields : Assignments) (x : Journaled ε α) : Journaled ε α :=
  ExceptT.mk (fun s =>
    let saved := s.bindings.saved fields
    let (r, s) := x.run { s with bindings := s.bindings.assign fields }
    (r, { s with bindings := s.bindings.restore saved }))

/-- The outcome of a computation as a value: a fault does not stop what comes after it. -/
def outcome (x : Journaled ε α) : Journaled δ (Except ε α) :=
  ExceptT.mk (fun s =>
    let (r, s) := x.run s
    (.ok r, s))

def mapFault (f : ε → δ) (x : Journaled ε α) : Journaled δ α :=
  ExceptT.mk (fun s =>
    let (r, s) := x.run s
    (r.mapError f, s))

end Journaled

end Appraisal
