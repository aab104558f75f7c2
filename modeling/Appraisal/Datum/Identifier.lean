import Appraisal.Datum.Display
import Appraisal.Number.Numeral
import Appraisal.Refusal

/-!
# Reading identifiers

An identifier is a number of 128 bits. Its text is 32 hexadecimal digits, which may be grouped by
hyphens, stand between braces and follow the name of a scheme.
-/

namespace Appraisal.Identifier

open Text

/-- The value of a hexadecimal digit; decimal digits may come from any script. -/
def digit? (c : Char) : Option Nat :=
  match digitValue? c with
  | some d => some d
  | none => hexValue? c

/-- Reads hexadecimal digits up to the end of a text. An underscore may stand in front of each digit
but the first. -/
def digits? (n : Nat) : List Char → Option Nat
  | [] => some n
  | '_' :: c :: s => (digit? c).bind (fun d => digits? (16 * n + d) s)
  | c :: s => (digit? c).bind (fun d => digits? (16 * n + d) s)

def dropMark : List Char → List Char
  | '0' :: x :: '_' :: s => if x = 'x' || x = 'X' then s else '0' :: x :: '_' :: s
  | '0' :: x :: s => if x = 'x' || x = 'X' then s else '0' :: x :: s
  | s => s

/-- Reads a whole number in base sixteen, with a sign and with blanks at its ends. -/
def readHex? (s : List Char) : Option Int :=
  let (negative, s) := Numeral.spanSign (trimmedOf isMargin s)
  match dropMark s with
  | [] => none
  | '_' :: _ => none
  | s => (digits? 0 s).map (fun n => if negative then -(n : Int) else n)

/-- A text without the occurrences of a word, which are looked for from left to right. The first `skip`
letters belong to one. -/
def without (word : List Letter) (skip : Nat) : List Letter → List Letter
  | [] => []
  | c :: s =>
      match skip with
      | n + 1 => without word n s
      | 0 =>
          if word.isPrefixOf (c :: s) then without word (word.length - 1) s
          else c :: without word 0 s

def withoutWord (word : Text) (s : List Letter) : List Letter := without word.toList 0 s

/-- The 32 letters that hold the digits of an identifier, unless there are more or fewer. -/
def body (t : Text) : List Letter :=
  let s := withoutWord "uuid:" (withoutWord "urn:" t.toList)
  let isBrace (l : Letter) : Bool := l = '\x7b' || l = '\x7d'
  (trimmedOf isBrace s).filter (· != '-')

def refused (reason : String) : Refusal := .stated .value reason

def read (t : Text) : Except Refusal Nat :=
  let s := body t
  if s.length ≠ 32 then .error (refused "badly formed hexadecimal UUID string")
  else
    match (chars? s).bind readHex? with
    | none =>
        .error (refused ("invalid literal for int() with base 16: " ++ quoted (.ofList s)))
    | some n =>
        if n < 0 then .error (refused "int is out of range (need a 128-bit value)")
        else .ok n.toNat

end Appraisal.Identifier
