import Appraisal.Datum.Basic
import Appraisal.Text.Quoted

/-!
# Data in messages

`shown` writes a datum so that its kind can be seen: texts are quoted and the compound kinds carry
their names. `display` writes texts, numbers, dates and members as they are.
-/

namespace Appraisal.Datum

open Text

def commaSeparated (parts : List String) : String :=
  ", ".intercalate parts

def uuidText (n : Nat) : String :=
  String.ofList (hyphenated (hex 32 n))

def shownDate (d : Date) : List String :=
  let c := d.toCivil
  [c.year, c.month, c.day].map (fun n : Nat => intText n)

def shownOffset (offset : Int) : String :=
  if offset = 0 then "tzinfo=datetime.timezone.utc"
  else "tzinfo=datetime.timezone(" ++ Span.shown offset ++ ")"

/-- The seconds and the microseconds are left out when they and what follows them are zero. -/
def shownMoment (t : Moment) : String :=
  let seconds := t.micros / microsPerSecond
  let micros := t.micros % microsPerSecond
  let fine :=
    if micros != 0 then [seconds % 60, micros]
    else if seconds % 60 != 0 then [seconds % 60]
    else []
  let time := ([seconds / 3600, seconds / 60 % 60] ++ fine).map (fun n : Nat => intText n)
  let zone := match t.offset with
    | none => []
    | some o => [shownOffset o]
  "datetime.datetime(" ++ commaSeparated (shownDate t.date ++ time ++ zone) ++ ")"

mutual

def shown : Datum → String
  | null => "None"
  | truth b => if b then "True" else "False"
  | whole n => intText n
  | double x => floatText x
  | decimal d => "Decimal('" ++ d.text ++ "')"
  | text s => quoted s
  | member kind name value => "<" ++ kind ++ "." ++ name ++ ": " ++ quoted value ++ ">"
  | date d => "datetime.date(" ++ commaSeparated (shownDate d) ++ ")"
  | moment t => shownMoment t
  | uuid n => "UUID('" ++ uuidText n ++ "')"
  | list items => "[" ++ commaSeparated (shownItems items) ++ "]"
  | tuple [x] => "(" ++ shown x ++ ",)"
  | tuple items => "(" ++ commaSeparated (shownItems items) ++ ")"
  | map entries => "\x7b" ++ commaSeparated (shownEntries entries) ++ "\x7d"

def shownItems : List Datum → List String
  | [] => []
  | x :: xs => shown x :: shownItems xs

def shownEntries : List (Datum × Datum) → List String
  | [] => []
  | e :: es => shownEntry e :: shownEntries es

def shownEntry : Datum × Datum → String
  | (k, v) => shown k ++ ": " ++ shown v

end

def display : Datum → Text
  | decimal d => d.text
  | text t => t
  | member kind name _ => kind ++ "." ++ name
  | date d => d.text
  | moment t => t.spacedText
  | uuid n => uuidText n
  | d => d.shown

end Appraisal.Datum
