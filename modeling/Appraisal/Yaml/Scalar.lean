import Appraisal.Calendar.Notation
import Appraisal.Number.Numeral
import Appraisal.Text.Digit
import Appraisal.Yaml.Node

/-!
# The forms of scalars

What a scalar without quotes and without a tag stands for can be seen from its text: nothing, a truth
value, a number in one of several bases, a time, or else the text itself. Underscores may stand among
the digits of numbers. A line feed at the end of the text does not count.
-/

namespace Appraisal.Yaml.Scalar

def isDigit (c : Char) : Bool := c.isDigit

def isGrouped (p : Char → Bool) (c : Char) : Bool := p c || c = '_'

def isBinary (c : Char) : Bool := c = '0' || c = '1'

def isOctal (c : Char) : Bool := '0' ≤ c && c ≤ '7'

def isHex (c : Char) : Bool := (Text.hexValue? c).isSome

def withoutSign (s : List Char) : List Char := (Numeral.spanSign s).2

def groups (p : Char → Bool) (s : List Char) : Bool := !s.isEmpty && s.all (isGrouped p)

def isCount (s : List Char) : Bool :=
  match s with
  | c :: rest => isDigit c && c != '0' && rest.all (isGrouped isDigit)
  | [] => false

/-- The rest of a text behind colons, each with a number below sixty behind it, and whether there are
any. -/
def behindSixties : Nat → List Char → Bool × List Char
  | 0, s => (false, s)
  | fuel + 1, s =>
      match s with
      | ':' :: a :: b :: rest =>
          if '0' ≤ a && a ≤ '5' && isDigit b then (true, (behindSixties fuel rest).2)
          else if isDigit a then (true, (behindSixties fuel (b :: rest)).2)
          else (false, s)
      | [':', a] => if isDigit a then (true, []) else (false, s)
      | s => (false, s)

def sixties? (start : Char → Bool) (s : List Char) : Option (List Char) :=
  match s with
  | c :: rest =>
      if start c then
        match behindSixties s.length (rest.dropWhile (isGrouped isDigit)) with
        | (true, rest) => some rest
        | (false, _) => none
      else none
  | [] => none

def isWhole (s : List Char) : Bool :=
  match withoutSign s with
  | ['0'] => true
  | '0' :: 'b' :: rest => groups isBinary rest
  | '0' :: 'x' :: rest => groups isHex rest
  | '0' :: rest => groups isOctal rest
  | rest => isCount rest || sixties? (fun c => isDigit c && c != '0') rest = some []

def isExponent (s : List Char) : Bool :=
  match s with
  | [] => true
  | e :: sign :: ds =>
      (e = 'e' || e = 'E') && (sign = '+' || sign = '-') && !ds.isEmpty && ds.all isDigit
  | _ => false

def isFraction (s : List Char) : Bool := isExponent (s.dropWhile (isGrouped isDigit))

/-- A number with digits in front of a point, or with numbers below sixty behind colons in front of
it. -/
def isPointed (s : List Char) : Bool :=
  let isNumber :=
    match s with
    | c :: rest =>
        match rest.dropWhile (isGrouped isDigit) with
        | '.' :: fraction => isDigit c && isFraction fraction
        | _ => false
    | [] => false
  let isSixties :=
    match sixties? isDigit s with
    | some ('.' :: fraction) => fraction.all (isGrouped isDigit)
    | _ => false
  isNumber || isSixties

def isDouble (s : List Char) : Bool :=
  let unsigned := withoutSign s
  isPointed unsigned || [".inf", ".Inf", ".INF"].any (fun w => unsigned = w.toList) ||
    [".nan", ".NaN", ".NAN"].any (fun w => s = w.toList) ||
    match s with
    | '.' :: c :: _ => isDigit c && isFraction (s.drop 1)
    | _ => false

def truthWords : List (String × Bool) :=
  [("yes", true), ("no", false), ("true", true), ("false", false), ("on", true), ("off", false)]

def isTruth (s : List Char) : Bool :=
  truthWords.any (fun w =>
    let small := w.1.toList
    s = small || s = small.map Char.toUpper ||
      s = (small.take 1).map Char.toUpper ++ small.drop 1)

def isNull (s : List Char) : Bool := ["~", "null", "Null", "NULL"].any (fun w => s = w.toList)

/-! ### Times -/

structure Stamp where
  civil : Civil
  /-- Are the month and the day written with two digits each? -/
  isPadded : Bool
  time : Option (IsoText.Time × Option Int)

def oneOrTwo? (s : List Char) : Option (Nat × List Char) :=
  let ds := (s.take 2).takeWhile isDigit
  if ds.isEmpty then none
  else some (Text.digitsValue (ds.map (fun c => c.toNat - 0x30)), s.drop ds.length)

def digits? (width : Nat) (s : List Char) : Option (Nat × List Char) :=
  let ds := s.take width
  if ds.length = width && ds.all isDigit then
    some (Text.digitsValue (ds.map (fun c => c.toNat - 0x30)), s.drop width)
  else none

def behind? (c : Char) (s : List Char) : Option (List Char) :=
  if s.head? = some c then some (s.drop 1) else none

def offset? (s : List Char) : Option (Option Int) :=
  match s.dropWhile (fun c => c = ' ' || c = '\t') with
  | [] => if s.isEmpty then some none else none
  | ['Z'] => some (some 0)
  | sign :: s => do
      if sign ≠ '+' && sign ≠ '-' then none
      let (hours, s) ← oneOrTwo? s
      let minutes ←
        match s with
        | [] => some 0
        | ':' :: s => do
            let (n, s) ← digits? 2 s
            if s.isEmpty then some n else none
        | _ => none
      let micros : Int := (hours * 3600 + minutes * 60) * microsPerSecond
      some (some (if sign = '-' then -micros else micros))

/-- Reads a time of day, of whose fraction six digits count, and the offset of a zone. -/
def time? (s : List Char) : Option (IsoText.Time × Option Int) := do
  let (hour, s) ← oneOrTwo? s
  let (minute, s) ← digits? 2 (← behind? ':' s)
  let (second, s) ← digits? 2 (← behind? ':' s)
  let (fraction, s) :=
    match s with
    | '.' :: s => (s.takeWhile isDigit, s.dropWhile isDigit)
    | s => ([], s)
  let ds := (fraction ++ List.replicate 6 '0').take 6
  let micros := Text.digitsValue (ds.map (fun c => c.toNat - 0x30))
  some ({ parts := [hour, minute, second], micros }, ← offset? s)

def behindDate? (s : List Char) : Option (List Char) :=
  match s with
  | 'T' :: s => some s
  | 't' :: s => some s
  | s =>
      let rest := s.dropWhile (fun c => c = ' ' || c = '\t')
      if rest.length < s.length then some rest else none

def stamp? (s : List Char) : Option Stamp := do
  let (year, s) ← digits? 4 s
  let afterYear ← behind? '-' s
  let (month, s) ← oneOrTwo? afterYear
  let afterMonth ← behind? '-' s
  let (day, s) ← oneOrTwo? afterMonth
  let isPadded := afterYear.length = s.length + 5
  let time ← if s.isEmpty then some none else (time? (← behindDate? s)).map some
  some ⟨⟨year, month, day⟩, isPadded, time⟩

def isTime (s : List Char) : Bool :=
  match stamp? s with
  | some t => t.isPadded || t.time.isSome
  | none => false

/-! ### Tags -/

def line (cs : List Char) : List Char :=
  if cs.getLast? = some '\n' then cs.dropLast else cs

def tagOf (s : List Char) : Tag :=
  let cs := line s
  if s.isEmpty then .null
  else if cs.isEmpty then .text
  else if isTruth cs then .truth
  else if isDouble cs then .double
  else if isWhole cs then .whole
  else if cs = ['<', '<'] then .merge
  else if isNull cs then .null
  else if isTime cs then .time
  else if cs = ['='] then .value
  else if cs = ['!'] || cs = ['&'] || cs = ['*'] then .other (Tag.standard ++ "yaml")
  else .text

/-- The tag that a text shows. No form has a surrogate. -/
def shownTag (t : Text) : Tag := ((Text.chars? t.toList).map tagOf).getD .text

end Appraisal.Yaml.Scalar
