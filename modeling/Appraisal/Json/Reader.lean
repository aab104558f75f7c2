import Appraisal.Datum.Equality
import Appraisal.Number.Numeral
import Appraisal.Text.Digit

/-!
# Reading JSON

A reader for JSON texts that keeps whole numbers apart from doubles and the entries of objects in
their order. Beyond the grammar of JSON it takes the names of the doubles that are not finite. The
recursion is on a bound that the length of the text provides: every step of the reader takes at least
one character.
-/

namespace Appraisal.Json

open Text

def isSpace (c : Char) : Bool :=
  c = ' ' || c = '\t' || c = '\n' || c = '\r'

def skipSpace (s : List Char) : List Char :=
  s.dropWhile isSpace

/-! ### Strings -/

def paired? (high low : Nat) : Option Char :=
  if 0xD800 ≤ high && high < 0xDC00 && 0xDC00 ≤ low && low < 0xE000 then
    some (Char.ofNat (0x10000 + (high - 0xD800) * 0x400 + (low - 0xDC00)))
  else none

def simpleEscape? (c : Char) : Option Char :=
  match c with
  | '"' => some '"'
  | '\\' => some '\\'
  | '/' => some '/'
  | 'b' => some (Char.ofNat 8)
  | 'f' => some (Char.ofNat 12)
  | 'n' => some '\n'
  | 'r' => some '\r'
  | 't' => some '\t'
  | _ => none

/-- Reads one letter of a string, escaped or not. An escaped surrogate without its partner stands
alone. -/
def stringLetter? : List Char → Option (Letter × List Char)
  | '\\' :: 'u' :: s => do
      let (high, s) ← hexDigits? 4 s
      match s with
      | '\\' :: 'u' :: t =>
          match hexDigits? 4 t with
          | some (low, rest) =>
              match paired? high low with
              | some c => some (.char c, rest)
              | none => some (.ofCode high, s)
          | none => some (.ofCode high, s)
      | s => some (.ofCode high, s)
  | '\\' :: c :: s => (simpleEscape? c).map (fun d => (.char d, s))
  | c :: s => if c.toNat < 0x20 then none else some (.char c, s)
  | [] => none

def stringRest? : Nat → List Char → Option (List Letter × List Char)
  | 0, _ => none
  | _ + 1, '"' :: s => some ([], s)
  | fuel + 1, s => do
      let (l, s) ← stringLetter? s
      let (ls, s) ← stringRest? fuel s
      some (l :: ls, s)

def string? (s : List Char) : Option (Text × List Char) :=
  (stringRest? (s.length + 1) s).map (fun r => (.ofList r.1, r.2))

/-! ### Numbers -/

/-- What stands behind digits, of which there must be one. -/
def behindDigits? : List Char → Option (List Char)
  | [] => none
  | c :: s => if c.isDigit then some (s.dropWhile Char.isDigit) else none

/-- What stands behind the digits in front of a point. A zero is the only one of them or not the
first. -/
def behindInteger? : List Char → Option (List Char)
  | '0' :: s => some s
  | s => behindDigits? s

def behindFraction? : List Char → Option (List Char)
  | '.' :: s => behindDigits? s
  | s => some s

def behindSign : List Char → List Char
  | '+' :: s => s
  | '-' :: s => s
  | s => s

def behindExponent? : List Char → Option (List Char)
  | [] => some []
  | c :: s => if c = 'e' ∨ c = 'E' then behindDigits? (behindSign s) else some (c :: s)

def isMagnitude (s : List Char) : Bool :=
  (((behindInteger? s).bind behindFraction?).bind behindExponent?) = some []

def isNumeral : List Char → Bool
  | '-' :: s => isMagnitude s
  | s => isMagnitude s

/-- A number without point and exponent is whole, any other is a double. -/
def number? (w : List Char) : Option Datum := do
  let n ← if isNumeral w then Numeral.read? w else none
  some
    (if w.all (fun c => c.isDigit || c = '-') then
      .whole (if n.negative then -(n.coefficient : Int) else n.coefficient)
    else .double n.toFloat)

/-! ### Words -/

def constant? (w : List Char) : Option Datum :=
  if w = "null".toList then some .null
  else if w = "true".toList then some (.truth true)
  else if w = "false".toList then some (.truth false)
  else if w = "NaN".toList then some (.double (Binary.toFloat .nan))
  else if w = "Infinity".toList then some (.double (Binary.toFloat (.infinite false)))
  else if w = "-Infinity".toList then some (.double (Binary.toFloat (.infinite true)))
  else none

/-- The datum of a word, that is, of anything outside quotes and brackets. -/
def word? (w : List Char) : Option Datum :=
  constant? w <|> number? w

def isDelimiter (c : Char) : Bool :=
  isSpace c || c = ',' || c = ':' || c = ']' || c = '[' || c = '\x7d' || c = '\x7b' || c = '"'

def plain? (s : List Char) : Option (Datum × List Char) :=
  (word? (s.takeWhile (!isDelimiter ·))).map (fun d => (d, s.dropWhile (!isDelimiter ·)))

/-! ### Values -/

mutual

def value? : Nat → List Char → Option (Datum × List Char)
  | 0, _ => none
  | fuel + 1, s =>
      match skipSpace s with
      | '"' :: s => (string? s).map (fun r => (.text r.1, r.2))
      | '[' :: s =>
          match skipSpace s with
          | ']' :: s => some (.list [], s)
          | s => (items? fuel s).map (fun r => (.list r.1, r.2))
      | '\x7b' :: s =>
          match skipSpace s with
          | '\x7d' :: s => some (.map [], s)
          | s => (entries? fuel s).map (fun r => (Datum.ofPairs r.1, r.2))
      | s => plain? s

def items? : Nat → List Char → Option (List Datum × List Char)
  | 0, _ => none
  | fuel + 1, s => do
      let (d, s) ← value? fuel s
      match skipSpace s with
      | ']' :: s => some ([d], s)
      | ',' :: s => (items? fuel s).map (fun r => (d :: r.1, r.2))
      | _ => none

def entries? : Nat → List Char → Option (List (Datum × Datum) × List Char)
  | 0, _ => none
  | fuel + 1, s =>
      match skipSpace s with
      | '"' :: s => do
          let (k, s) ← string? s
          match skipSpace s with
          | ':' :: s => do
              let (d, s) ← value? fuel s
              match skipSpace s with
              | '\x7d' :: s => some ([(.text k, d)], s)
              | ',' :: s => (entries? fuel s).map (fun r => ((.text k, d) :: r.1, r.2))
              | _ => none
          | _ => none
      | _ => none

end

def read? (s : String) : Option Datum :=
  let cs := s.toList
  match value? (2 * cs.length + 2) cs with
  | some (d, rest) => if (skipSpace rest).isEmpty then some d else none
  | none => none

end Appraisal.Json
