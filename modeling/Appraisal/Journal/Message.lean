import Appraisal.Datum.Conversion
import Appraisal.Datum.Equality
import Appraisal.Number.Precise
import Appraisal.Text.Digit

/-!
# Messages

The message of a record may be a template whose directives are filled with arguments. A directive is a
percent sign, an optional name, flags, a width, a precision and a letter that says how the argument is
written. Arguments are a list, or one mapping whose entries are asked for by name. Without arguments a
message is taken as it is.
-/

namespace Appraisal.Journal

inductive MessageError
  | mismatch
  | incomplete
  | incompleteName
  | unknownLetter (l : Letter) (place : Nat)
  | missingEntry (name : Text)
  /-- A field too long for the memory. -/
  | overlong
  | refused (r : Refusal)
  deriving DecidableEq, Repr

namespace MessageError

def hexText (n : Nat) : String :=
  String.ofList (Nat.toDigits 16 n)

/-- A letter as a message gives it, if it is a printable ASCII character. -/
def letter (l : Letter) : Char :=
  (l.char?.filter (fun c => 31 ≤ c.toNat && c.toNat ≤ 126)).getD '?'

def report : MessageError → Report
  | mismatch => .silent "TypeError"
  | incomplete => .plain "ValueError" "incomplete format"
  | incompleteName => .plain "ValueError" "incomplete format key"
  | unknownLetter l place =>
      .plain "ValueError" ("unsupported format character \x27" ++ String.singleton (letter l) ++
        "\x27 (0x" ++ hexText l.code ++ ") at index " ++ intText place)
  | missingEntry name => .missingKey name
  | overlong => .plain "MemoryError" ""
  | refused r => r.report

end MessageError

structure Directive where
  flags : List Letter := []
  width : Nat := 0
  precision : Option Nat := none

inductive Arguments
  | items (rest : List Datum)
  /-- A mapping, and the datum that the next directive takes: the mapping itself, or the entry that
  was asked for last. -/
  | mapping (entries : List (Datum × Datum)) (value : Option Datum)

namespace Arguments

/-- A single mapping that is not empty stands for its entries. -/
def ofList : List Datum → Arguments
  | [.map (e :: es)] => .mapping (e :: es) (some (.map (e :: es)))
  | ds => .items ds

def next : Arguments → Except MessageError (Datum × Arguments)
  | items (d :: rest) => .ok (d, items rest)
  | mapping entries (some d) => .ok (d, mapping entries none)
  | _ => .error .mismatch

/-- Were all arguments of a list used? The entries of a mapping need not be. -/
def isDone : Arguments → Bool
  | items rest => rest.isEmpty
  | mapping .. => true

end Arguments

namespace Directive

def has (d : Directive) (flag : Letter) : Bool := d.flags.contains flag

def finest : Nat := 2147483647

/-- The length of the longest field that is written. -/
def longest : Nat := twoPow 30

/-- Fills a text up to the width, with blanks or with zeros behind the sign. -/
def fill (d : Directive) (zeros : Bool) (sign body : List Letter) :
    Except MessageError (List Letter) :=
  let missing := d.width - (sign.length + body.length)
  if longest < d.width then .error .overlong
  else if d.has '-' then .ok (sign ++ body ++ List.replicate missing (.char ' '))
  else if zeros then .ok (sign ++ List.replicate missing (.char '0') ++ body)
  else .ok (List.replicate missing (.char ' ') ++ sign ++ body)

def signFor (d : Directive) (negative : Bool) : List Char :=
  if negative then ['-'] else if d.has '+' then ['+'] else if d.has ' ' then [' '] else []

def text (d : Directive) (t : Text) : Except MessageError (List Letter) :=
  let s := t.toList
  d.fill false [] (match d.precision with | some p => s.take p | none => s)

def number (d : Directive) (sign digits : List Char) : Except MessageError (List Letter) :=
  d.fill (d.has '0') (sign.map .char) (digits.map .char)

def integer (d : Directive) (base : Nat) (mark : List Char) (upper : Bool) (n : Int) :
    Except MessageError (List Letter) :=
  let precision := d.precision.getD 0
  if finest < precision + 3 then .error (.refused (.stated .range "precision too large"))
  else if longest < precision then .error .overlong
  else
    let ds := padDigits precision (Nat.toDigits base n.natAbs)
    let ds := if upper then ds.map Char.toUpper else ds
    let mark := if d.has '#' then mark else []
    d.number (d.signFor (n < 0) ++ mark) ds

def double (d : Directive) (rule : PrecisionRule) (upper : Bool) (x : Float) :
    Except MessageError (List Letter) :=
  let precision := d.precision.getD 6
  if longest < precision then .error .overlong
  else
    let (negative, cs) := rule.chars precision (d.has '#') x
    d.number (d.signFor negative) (if upper then cs.map Char.toUpper else cs)

end Directive

/-- The whole part of a decimal, if it is not too long to be written. -/
def decimalPart (c : Nat) (e : Int) : Except MessageError Nat :=
  if c = 0 || Decimal.adjusted c e < 0 then .ok 0
  else if Datum.digitLimit ≤ Decimal.adjusted c e then .error (.refused (Datum.overlong ""))
  else .ok (if 0 ≤ e then c * tenPow e.toNat else c / tenPow (-e).toNat)

def wholePart : Datum → Except MessageError Int
  | .truth b => .ok (if b then 1 else 0)
  | .whole n => .ok n
  | .double x => (truncateInt x).mapError (fun e => .refused (.notIntegral e))
  | .decimal (.finite s c e) =>
      (decimalPart c e).map (fun n => if s then -(n : Int) else n)
  | .decimal (.infinite _) =>
      .error (.refused (.stated .range "cannot convert Infinity to integer"))
  | .decimal (.nan ..) => .error (.refused (.stated .value "cannot convert NaN to integer"))
  | .uuid n => .ok n
  | _ => .error .mismatch

def exactWhole : Datum → Except MessageError Int
  | .truth b => .ok (if b then 1 else 0)
  | .whole n => .ok n
  | _ => .error .mismatch

def asDouble (d : Datum) : Except MessageError Float :=
  match d with
  | .text _ => .error .mismatch
  | .member .. => .error .mismatch
  | d =>
      match d.toFloat with
      | .ok x => .ok x
      | .error (.refusal r) => .error (.refused r)
      | .error _ => .error .mismatch

def singleLetter : Datum → Except MessageError Letter
  | .whole n =>
      if 0 ≤ n && n < 0x110000 then .ok (.ofCode n.toNat)
      else .error (.refused (.stated .range "%c arg not in range(0x110000)"))
  | .truth b => .ok (.ofCode (if b then 1 else 0))
  | d =>
      match d.asText?.map Text.toList with
      | some [l] => .ok l
      | _ => .error .mismatch

def asciiOnly (s : String) : String :=
  String.ofList (s.toList.flatMap (fun c => if c.toNat < 128 then [c] else Text.numbered c))

def written (d : Directive) (letter : Letter) (place : Nat) (value : Datum) :
    Except MessageError (List Letter) :=
  match letter with
  | .char 's' => d.text value.display
  | .char 'r' => d.text value.shown
  | .char 'a' => d.text (asciiOnly value.shown)
  | .char 'd' => (wholePart value).bind (d.integer 10 [] false)
  | .char 'i' => (wholePart value).bind (d.integer 10 [] false)
  | .char 'u' => (wholePart value).bind (d.integer 10 [] false)
  | .char 'x' => (exactWhole value).bind (d.integer 16 ['0', 'x'] false)
  | .char 'X' => (exactWhole value).bind (d.integer 16 ['0', 'X'] true)
  | .char 'o' => (exactWhole value).bind (d.integer 8 ['0', 'o'] false)
  | .char 'f' => (asDouble value).bind (d.double .places false)
  | .char 'F' => (asDouble value).bind (d.double .places true)
  | .char 'e' => (asDouble value).bind (d.double .exponential false)
  | .char 'E' => (asDouble value).bind (d.double .exponential true)
  | .char 'g' => (asDouble value).bind (d.double .general false)
  | .char 'G' => (asDouble value).bind (d.double .general true)
  | .char 'c' => (singleLetter value).bind (fun l => d.fill false [] [l])
  | l => .error (.unknownLetter l place)

/-- What is read after a percent sign, with the text and the arguments that are left. -/
structure Opened where
  directive : Directive
  rest : List Letter
  arguments : Arguments

namespace Opened

/-- The name in parentheses, which may hold matching parentheses. -/
def nameLetters : Nat → List Letter → Except MessageError (List Letter × List Letter)
  | _, [] => .error .incompleteName
  | depth, .char '(' :: s => (nameLetters (depth + 1) s).map (fun r => (.char '(' :: r.1, r.2))
  | 0, .char ')' :: s => .ok ([], s)
  | depth + 1, .char ')' :: s => (nameLetters depth s).map (fun r => (.char ')' :: r.1, r.2))
  | depth, l :: s => (nameLetters depth s).map (fun r => (l :: r.1, r.2))

/-- A directive with a name takes the entry of that name. -/
def named (o : Opened) : Except MessageError Opened :=
  match o.rest with
  | .char '(' :: s =>
      match o.arguments with
      | .mapping entries _ => do
          let (name, s) ← nameLetters 0 s
          let name := Text.ofList name
          match Datum.lookup? name entries with
          | some d => return { o with rest := s, arguments := .mapping entries (some d) }
          | none => throw (.missingEntry name)
      | _ => .error .mismatch
  | _ => .ok o

def isFlag (l : Letter) : Bool := l = '-' || l = '+' || l = ' ' || l = '#' || l = '0'

def flagged (o : Opened) : Opened :=
  { o with
    directive := { o.directive with flags := o.rest.takeWhile isFlag }
    rest := o.rest.dropWhile isFlag }

def refusedRange (reason : String) : MessageError := .refused (.stated .range reason)

def refusedValue (reason : String) : MessageError := .refused (.stated .value reason)

def isFigure (l : Letter) : Bool := l.isOf Char.isDigit

/-- A number in the text up to a bound, or the next argument if a star stands for it. -/
def amount (bound : Nat) (tooBig word : String) (s : List Letter) (arguments : Arguments) :
    Except MessageError (Option Int × List Letter × Arguments) :=
  match s with
  | .char '*' :: s => do
      let (d, arguments) ← arguments.next
      let n ← exactWhole d
      if (bound : Int) < n || n < -bound - 1 then
        throw (refusedRange ("Python int too large to convert to C " ++ word))
      else return (some n, s, arguments)
  | s =>
      let ds := s.takeWhile isFigure
      let n := Text.digitsValue (ds.map (fun l => l.code - 0x30))
      if ds.isEmpty then .ok (none, s, arguments)
      else if bound < n then .error (refusedValue tooBig)
      else .ok (some n, s.dropWhile isFigure, arguments)

def widest : Nat := 9223372036854775807

/-- A negative width turns to the left. -/
def widened (o : Opened) : Except MessageError Opened := do
  let (n, rest, arguments) ← amount widest "width too big" "ssize_t" o.rest o.arguments
  let n := n.getD 0
  let flags := if n < 0 then .char '-' :: o.directive.flags else o.directive.flags
  return ⟨{ o.directive with flags := flags, width := n.natAbs }, rest, arguments⟩

def limited (o : Opened) : Except MessageError Opened :=
  match o.rest with
  | .char '.' :: s => do
      let (n, rest, arguments) ← amount Directive.finest "precision too big" "int" s o.arguments
      return ⟨{ o.directive with precision := some (n.getD 0).toNat }, rest, arguments⟩
  | _ => .ok o

/-- A letter for the size of a number says nothing. -/
def sized (o : Opened) : Opened :=
  match o.rest with
  | .char 'h' :: s => { o with rest := s }
  | .char 'l' :: s => { o with rest := s }
  | .char 'L' :: s => { o with rest := s }
  | _ => o

def ofText (s : List Letter) (arguments : Arguments) : Except MessageError Opened := do
  let o ← named ⟨{}, s, arguments⟩
  let o ← widened o.flagged
  let o ← limited o
  return o.sized

end Opened

/-- Fills a template, whose length in all is given, from a place on. Two percent signs stand for one. -/
def filled : Nat → Nat → List Letter → Arguments → Except MessageError (List Letter)
  | _, _, [], arguments => if arguments.isDone then .ok [] else .error .mismatch
  | 0, _, _ :: _, _ => .error .incomplete
  | fuel + 1, total, .char '%' :: .char '%' :: s, arguments =>
      (filled fuel total s arguments).map (.char '%' :: ·)
  | fuel + 1, total, .char '%' :: s, arguments => do
      let o ← Opened.ofText s arguments
      match o.rest with
      | [] => throw .incomplete
      | letter :: rest => do
          let (value, arguments) ← o.arguments.next
          let part ← written o.directive letter (total - rest.length - 1) value
          return part ++ (← filled fuel total rest arguments)
  | fuel + 1, total, l :: s, arguments => (filled fuel total s arguments).map (l :: ·)

def message (template : Text) (arguments : List Datum) : Except MessageError Text :=
  if arguments.isEmpty then .ok template
  else
    let s := template.toList
    (filled (s.length + 1) s.length s (.ofList arguments)).map .ofList

end Appraisal.Journal
