import Appraisal.Json.Writer
import Appraisal.Journal.Bindings
import Appraisal.Report

/-!
# Records

One record of a journal: how severe it is, who wrote it, its message, the bound fields, further fields
and the report of an error. It is written as one line of JSON. The name of a field belongs to the
first that claims it: the record itself, the bindings, then the further fields. The report of an error
comes last and replaces what has its names.
-/

namespace Appraisal.Journal

def debugLevel : Int := 10
def infoLevel : Int := 20
def warningLevel : Int := 30
def errorLevel : Int := 40
def criticalLevel : Int := 50

def levelNames : List (String × Int) :=
  [("CRITICAL", criticalLevel), ("FATAL", criticalLevel), ("ERROR", errorLevel),
   ("WARNING", warningLevel), ("WARN", warningLevel), ("INFO", infoLevel), ("DEBUG", debugLevel),
   ("NOTSET", 0)]

def levelOfName? (name : Text) : Option Int :=
  (levelNames.find? (fun l => l.1 = name)).map Prod.snd

def nameOfLevel? (level : Int) : Option String :=
  (levelNames.find? (fun l => l.2 = level)).map Prod.fst

def levelName (level : Int) : String :=
  (nameOfLevel? level).getD ("Level " ++ intText level)

/-- The space of names that all loggers of the library share. -/
def rootName : String := "valuation_kernel"

def loggerName (name : Text) : Text := rootName ++ "." ++ name

def plainText : Datum → Option Text
  | .moment t => some t.text
  | .date d => some d.text
  | .decimal d => some d.text
  | .uuid n => some (Datum.uuidText n)
  | _ => none

/-- Writes a single datum in the way of a journal that knows no other kinds. -/
def encode (d : Datum) : Except Json.WriteError String :=
  Json.write ⟨false, none, plainText⟩ 0 d

structure Record where
  level : Int
  /-- The level as a line gives it. -/
  label : Datum := .text (levelName level)
  logger : Text
  message : Text
  bindings : Bindings
  fields : List (Text × Datum)
  report : Option Report

def ownNames : List Text :=
  ["name", "msg", "args", "levelname", "levelno", "pathname", "filename", "module", "exc_info",
    "exc_text", "stack_info", "lineno", "funcName", "created", "msecs", "relativeCreated", "thread",
    "threadName", "processName", "process"]

def hiddenNames : List Text := "message" :: "taskName" :: ownNames

namespace Record

def addNew (acc : List (Text × Datum)) (f : Text × Datum) : List (Text × Datum) :=
  if acc.any (fun g => g.1 = f.1) then acc else acc ++ [f]

/-- Sets a field; a field that is there keeps its place. -/
def put (acc : List (Text × Datum)) (f : Text × Datum) : List (Text × Datum) :=
  if acc.any (fun g => g.1 = f.1) then acc.map (fun g => if g.1 = f.1 then f else g)
  else acc ++ [f]

def reportFields (r : Report) : List (Text × Datum) :=
  let own : List (Text × Datum) :=
    [("exc_type", .text r.sort), ("exc_message", .text (r.message.getD ""))]
  let code : Option (Text × Datum) := r.code.map (fun c => ("exc_code", .text c))
  own ++ code.toList ++ r.fields.map (fun f => (("exc_" : Text) ++ f.1, f.2))

def own (r : Record) (time : Text) : List (Text × Datum) :=
  [("ts", .text time), ("level", r.label), ("logger", .text r.logger),
    ("message", .text r.message)]

def bound (r : Record) : List (Text × Datum) :=
  r.bindings.toList

def further (r : Record) : List (Text × Datum) :=
  r.fields.filter (fun f => !hiddenNames.contains f.1)

def payload (r : Record) (time : Text) : List (Text × Datum) :=
  let fields := r.further.foldl addNew (r.bound.foldl put (r.own time))
  match r.report with
  | none => fields
  | some report => (reportFields report).foldl put fields

/-- A record as one line. Data that JSON does not know are displayed. -/
def line (r : Record) (time : Text) : Except Json.WriteError String :=
  Json.write ⟨false, none, Json.displayed⟩ 0 (.object (r.payload time))

end Record

end Appraisal.Journal
