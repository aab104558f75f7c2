import Appraisal.Datum.Conversion

/-!
# Writing JSON

Data are written in one line, with sorted or with given key order, or spread over lines with an
indentation. Everything outside the printable ASCII characters is escaped. Data that JSON does not
know go through a conversion that the caller chooses; without one they cannot be written, and neither
can whole numbers with too many digits.
-/

namespace Appraisal.Json

open Text

def unitEscape (n : Nat) : List Char :=
  '\\' :: 'u' :: hex 4 n

/-- The UTF-16 units of a letter as escapes. A surrogate is one unit. -/
def codeEscape (n : Nat) : List Char :=
  if n < 0x10000 then unitEscape n
  else unitEscape (0xD800 + (n - 0x10000) / 0x400) ++ unitEscape (0xDC00 + (n - 0x10000) % 0x400)

def escapedLetter : Letter → List Char
  | .char c =>
      if c = '"' then ['\\', '"']
      else if c = '\\' then ['\\', '\\']
      else if c = '\n' then ['\\', 'n']
      else if c = '\r' then ['\\', 'r']
      else if c = '\t' then ['\\', 't']
      else if c.toNat = 8 then ['\\', 'b']
      else if c.toNat = 12 then ['\\', 'f']
      else if 0x20 ≤ c.toNat && c.toNat < 0x7F then [c]
      else codeEscape c.toNat
  | l => codeEscape l.code

def stringText (t : Text) : String :=
  String.ofList ('"' :: t.toList.flatMap escapedLetter ++ ['"'])

inductive WriteError
  | unknownKind (kind : String)
  | unknownKey (kind : String)
  /-- The keys of a mapping cannot be sorted. -/
  | keys (why : Datum.OrderError)
  /-- A whole number has too many digits. -/
  | overlong
  deriving DecidableEq, Repr

def WriteError.fault : WriteError → Fault
  | unknownKind _ => .mismatch
  | unknownKey _ => .mismatch
  | keys why => .ofOrder why
  | overlong => .refusal (Datum.overlong "")

structure Style where
  sortKeys : Bool
  /-- The indentation of one level, or none for a single line. -/
  indent : Option Nat
  /-- What stands for data that JSON does not know. -/
  convert : Datum → Option Text

def wholeText (n : Int) : Except WriteError String :=
  if Datum.digitLimit < decimalLength n.natAbs then .error .overlong else .ok (intText n)

def keyText : Datum → Except WriteError Text
  | .text s => .ok s
  | .member _ _ s => .ok s
  | .null => .ok "null"
  | .truth b => .ok (if b then "true" else "false")
  | .whole n => (wholeText n).map Text.ofString
  | .double x => .ok (jsonNotation.text x)
  | d => .error (.unknownKey d.kindName)

def lineBreak (style : Style) (depth : Nat) : String :=
  match style.indent with
  | none => ""
  | some n => "\n" ++ String.ofList (List.replicate (n * depth) ' ')

def bracketed (style : Style) (depth : Nat) (opening closing : String) (parts : List String) :
    String :=
  if parts.isEmpty then opening ++ closing
  else
    let comma := if style.indent.isSome then "," ++ lineBreak style (depth + 1) else ", "
    opening ++ lineBreak style (depth + 1) ++ comma.intercalate parts ++
      lineBreak style depth ++ closing

mutual

def write (style : Style) (depth : Nat) : Datum → Except WriteError String
  | .null => .ok "null"
  | .truth b => .ok (if b then "true" else "false")
  | .whole n => wholeText n
  | .double x => .ok (jsonNotation.text x)
  | .text s => .ok (stringText s)
  | .member _ _ s => .ok (stringText s)
  | .list items => (writeItems style (depth + 1) items).map (bracketed style depth "[" "]")
  | .tuple items => (writeItems style (depth + 1) items).map (bracketed style depth "[" "]")
  | .map entries => do
      let written := writeValues style (depth + 1) entries
      let written ←
        if style.sortKeys then (Datum.sortedEntries written).mapError .keys else .ok written
      let parts ← written.mapM (fun e => do
        let key ← keyText e.1
        let value ← e.2
        .ok (stringText key ++ ": " ++ value))
      .ok (bracketed style depth "\x7b" "\x7d" parts)
  | d =>
      match style.convert d with
      | some s => .ok (stringText s)
      | none => .error (.unknownKind d.kindName)

def writeItems (style : Style) (depth : Nat) : List Datum → Except WriteError (List String)
  | [] => .ok []
  | x :: xs => do
      let s ← write style depth x
      let rest ← writeItems style depth xs
      .ok (s :: rest)

def writeValues (style : Style) (depth : Nat) :
    List (Datum × Datum) → List (Datum × Except WriteError String)
  | [] => []
  | e :: es => writeValue style depth e :: writeValues style depth es

def writeValue (style : Style) (depth : Nat) : Datum × Datum → Datum × Except WriteError String
  | (k, v) => (k, write style depth v)

end

/-- Writes everything that JSON does not know as its plain text. -/
def displayed (d : Datum) : Option Text := some d.display

/-- The canonical form of a datum: one line, sorted keys. -/
def canonical (d : Datum) : Except WriteError String :=
  write ⟨true, none, displayed⟩ 0 d

/-- The form in which a document is shown: an indentation of two. -/
def pretty (d : Datum) : Except WriteError String :=
  write ⟨false, some 2, fun _ => none⟩ 0 d

end Appraisal.Json
