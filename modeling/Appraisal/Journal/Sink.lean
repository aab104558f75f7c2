import Appraisal.Journal.Writing

/-!
# The sink of a journal

Lines are written only once a sink is configured, to the stream that it was given and for records that
are severe enough. The first configuration stays until the sink is reset.
-/

namespace Appraisal.Journal

def levelOf : Datum → Except Fault Int
  | .whole n => .ok n
  | .truth b => .ok b.toNat
  | .text s =>
      match levelOfName? s with
      | some n => .ok n
      | none => .error (.refusal (.stated .value ("Unknown level: " ++ Text.quoted s)))
  | _ => .error .mismatch

structure Sink where
  /-- Was the sink configured since it was reset, even in vain? -/
  isConfigured : Bool
  /-- The stream that lines go to, once there is one. -/
  stream : Option Nat
  level : Int

namespace Sink

def initial : Sink := ⟨false, none, 0⟩

/-- Configures a sink that is not configured yet. Without a proper level it gets no stream. -/
def configure (s : Sink) (level : Datum) (stream : Nat) : Sink × Except Fault Unit :=
  if s.isConfigured then (s, .ok ())
  else
    match levelOf level with
    | .ok n => (⟨true, some stream, n⟩, .ok ())
    | .error e => ({ s with isConfigured := true }, .error e)

def reset : Sink := ⟨false, none, warningLevel⟩

/-- The least level of records that are made. A level of zero stands for the level of warnings. -/
def threshold (s : Sink) : Int := if s.level = 0 then warningLevel else s.level

/-- Is a record of a level made? None without a positive level is. -/
def accepts (s : Sink) (level : Int) : Bool := 0 < level && s.threshold ≤ level

def writes (s : Sink) (stream : Nat) (r : Record) : Bool :=
  s.stream = some stream && s.accepts r.level

end Sink

/-- The names that the further fields of a record must not have. -/
def reservedNames : List Text := "message" :: "asctime" :: ownNames

def overwriteMessage (name : Text) : Text :=
  "Attempt to overwrite " ++ Text.quoted name ++ " in LogRecord"

def reserved? (fields : List (Text × Datum)) : Option Text :=
  (fields.find? (fun f => reservedNames.contains f.1)).map Prod.fst

end Appraisal.Journal
