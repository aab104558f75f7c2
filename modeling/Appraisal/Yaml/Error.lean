import Appraisal.Fault

/-!
# What can be wrong with a YAML document

A complaint says what was being read, what is wrong and where. Besides, a document can hold a
character that no document may hold, it can be nested too deeply, and a scalar can have a text that its
tag does not allow.
-/

namespace Appraisal.Yaml

/-- A place in a text; lines and columns count from zero. -/
structure Place where
  line : Nat := 0
  column : Nat := 0
  deriving DecidableEq, Repr

def Place.text (source : Text) (p : Place) : Text :=
  "  in \"" ++ source ++
    ("\", line " ++ intText (p.line + 1 : Nat) ++ ", column " ++ intText (p.column + 1 : Nat))

structure Complaint where
  /-- What was being read, and where that starts. -/
  context : Option (String × Option Place)
  problem : String
  place : Place
  deriving DecidableEq, Repr

namespace Complaint

def during (context : String) (start : Place) (problem : String) (place : Place) : Complaint :=
  ⟨some (context, some start), problem, place⟩

def only (problem : String) (place : Place) : Complaint := ⟨none, problem, place⟩

/-- The message names the start of what was being read unless the problem is there. -/
def message (source : Text) (c : Complaint) : Text :=
  let context : List Text :=
    match c.context with
    | none => []
    | some (what, none) => [what]
    | some (what, some start) =>
        if start = c.place then [what] else [what, start.text source]
  Text.intercalate "\n" (context ++ [(c.problem : Text), c.place.text source])

end Complaint

inductive Error
  | complaint (c : Complaint)
  /-- A character that no document may hold. -/
  | unprintable (code position : Nat)
  | tooDeep
  | refused (r : Refusal)
  /-- A scalar that is tagged as a truth value but names none. -/
  | unknownTruth (word : Text)
  /-- A scalar that is tagged as a number but has no digits. -/
  | emptyNumber
  /-- A scalar that is tagged as a time but has no form of one. -/
  | noTime
  deriving DecidableEq, Repr

namespace Error

def report : Error → Report
  | complaint _ => .silent "YAMLError"
  | unprintable .. => .silent "YAMLError"
  | tooDeep => .silent "RecursionError"
  | refused r => r.report
  | unknownTruth word => .missingKey word
  | emptyNumber => .plain "IndexError" "string index out of range"
  | noTime => .silent "AttributeError"

def message (source : Text) (e : Error) : Text :=
  match e with
  | complaint c => c.message source
  | unprintable code position =>
      let digits := (Text.hex 8 code).dropWhile (· = '0')
      ("unacceptable character #x" ++
        String.ofList (List.replicate (4 - digits.length) '0' ++ digits) ++
        ": special characters are not allowed\n  in \"") ++ source ++
        ("\", position " ++ intText position)
  | e => (e.report.message).getD ""

end Error

end Appraisal.Yaml
