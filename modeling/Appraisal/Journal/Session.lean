import Appraisal.Calendar.Timestamp
import Appraisal.Fault
import Appraisal.Journal.Message
import Appraisal.Journal.Sink

/-!
# Sessions

A journal over time: the fields that are bound, what its open blocks will give back, and the sink of
its lines.
-/

namespace Appraisal.Journal

structure Session where
  bindings : Bindings
  /-- What the open blocks give back, the last one first. -/
  blocks : List Assignments
  sink : Sink

namespace Session

def initial : Session := ⟨.empty, [], .initial⟩

def assign (s : Session) (fields : Assignments) : Session :=
  { s with bindings := s.bindings.assign fields }

def openBlock (s : Session) (fields : Assignments) : Session :=
  { s.assign fields with blocks := s.bindings.saved fields :: s.blocks }

def closeBlock? (s : Session) : Option Session :=
  match s.blocks with
  | [] => none
  | saved :: blocks => some { s with bindings := s.bindings.restore saved, blocks }

def clear (s : Session) : Session := { s with bindings := .empty }

/-- Runs a computation; its outcome and its records, the first one first. -/
def run {ε α : Type} (s : Session) (x : Journaled ε α) : Except ε α × List Record :=
  let (r, j) := x.run ⟨s.bindings, []⟩
  (r, j.records.reverse)

def written (s : Session) (stream : Nat) (records : List Record) : List Record :=
  records.filter (s.sink.writes stream)

def failure {ε : Type} (logger : Text) (report : Report) : Journaled ε Unit :=
  Journaled.note errorLevel logger "failed" [] (some report)

/-- What the line of a record gives as its level: the name of a number, the number of a name. -/
def label : Datum → Except Fault Datum
  | .text s =>
      match levelOfName? s with
      | some n => .ok (.whole n)
      | none => .ok (.text ("Level " ++ s))
  | .list _ => .error .mismatch
  | .map _ => .error .mismatch
  | level =>
      match levelNames.find? (fun l => level.same (.whole l.2)) with
      | some known => .ok (.text known.1)
      | none => .ok (.text ("Level " ++ level.display))

/-- The record of a message with arguments. The names of further fields are looked at only if the
record is made at all; a message that does not fit its arguments leaves no line. -/
def log (s : Session) (level : Datum) (logger template : Text) (args : List Datum)
    (fields : List (Text × Datum)) : Except Report (List Record) := do
  let severity ← match level with
    | .whole n => pure n
    | .truth b => pure (b.toNat : Int)
    | _ => throw Fault.mismatch.report
  if s.sink.accepts severity then
    match reserved? fields, message template args with
    | some name, _ => throw (.missingKey (overwriteMessage name))
    | none, .error _ => return []
    | none, .ok m =>
        let label ← (label level).mapError Fault.report
        return [{ level := severity, label, logger := loggerName logger, message := m
                  bindings := s.bindings, fields, report := none }]
  else return []

def instant : Datum → Except Fault Moment
  | .whole n => (Timestamp.read (.whole n)).mapError (fun e => .refusal e.refusal)
  | .truth b => (Timestamp.read (.whole b.toNat)).mapError (fun e => .refusal e.refusal)
  | .double x => (Timestamp.read (.double x)).mapError (fun e => .refusal e.refusal)
  | _ => .error .mismatch

def line (s : Session) (created level : Datum) (logger template : Text)
    (args : List Datum) (fields : List (Text × Datum)) : Except Report String := do
  let label ← (label level).mapError Fault.report
  let time ← (instant created).mapError Fault.report
  let m ← (message template args).mapError MessageError.report
  let r : Record :=
    { level := 0, label, logger := loggerName logger, message := m, bindings := s.bindings, fields
      report := none }
  (r.line time.text).mapError (fun e => e.fault.report)

end Session

end Appraisal.Journal
