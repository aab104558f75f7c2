import Appraisal.Formula.Surface
import Appraisal.Number.Numeral
import Appraisal.Text.Equivalent
import Appraisal.Text.Identifier

/-!
# Tokens

The words of a formula: names, keywords, numbers, string pieces and operators. Line ends count only
outside of brackets. A lexeme is a token with the number of bytes before it in its line.
-/

namespace Appraisal.Formula

structure Piece where
  bytes : Bool
  raw : Bool
  formatted : Bool
  body : List Char

inductive Token
  | name (id : String)
  | keyword (word : String)
  | number (value : Constant)
  | string (piece : Piece)
  | op (symbol : String)
  | lineEnd

structure Lexeme where
  token : Token
  offset : Nat

def keywords : List String :=
  ["False", "None", "True", "and", "as", "assert", "async", "await", "break", "class", "continue",
    "def", "del", "elif", "else", "except", "finally", "for", "from", "global", "if", "import",
    "in", "is", "lambda", "nonlocal", "not", "or", "pass", "raise", "return", "try", "while",
    "with", "yield"]

/-- The keywords that may follow a number without a blank. -/
def keywordsAfterNumber : List String :=
  ["and", "else", "for", "if", "in", "is", "not", "or"]

def symbols3 : List String := ["**=", "//=", "<<=", ">>=", "..."]

def symbols2 : List String :=
  ["!=", "%=", "&=", "**", "*=", "+=", "-=", "->", "//", "/=", ":=", "<<", "<=", "==", ">=", ">>",
    "@=", "^=", "|="]

def symbols1 : List String :=
  ["(", ")", "[", "]", "\x7b", "\x7d", ",", ":", ";", ".", "+", "-", "*", "/", "%", "@", "&", "|",
    "^", "~", "<", ">", "="]

def bracketLimit : Nat := 200

/-- Characters that go on with a word; whether those outside ASCII may is decided for the whole
word. -/
def isWordChar (c : Char) : Bool :=
  c.isAlphanum || c = '_' || 128 ≤ c.toNat

def isWordStart (c : Char) : Bool :=
  c.isAlpha || c = '_' || 128 ≤ c.toNat

/-- The token of a word; a word with characters that no name may have is none. -/
def wordToken? (w : List Char) : Option Token :=
  if w.all (fun c => c.toNat < 128) then
    let s := String.ofList w
    some (if keywords.contains s then .keyword s else .name s)
  else if Text.isName w then some (.name (String.ofList (Text.composed w)))
  else none

/-! ### Numbers -/

/-- Digits with single underscores between them: the digits, what they take and the rest. -/
def spanGrouped (isDigit : Char → Bool) : List Char → List Char × List Char × List Char
  | [] => ([], [], [])
  | '_' :: c :: s =>
      if isDigit c then
        let (ds, taken, rest) := spanGrouped isDigit s
        (c :: ds, '_' :: c :: taken, rest)
      else ([], [], '_' :: c :: s)
  | c :: s =>
      if isDigit c then
        let (ds, taken, rest) := spanGrouped isDigit s
        (c :: ds, c :: taken, rest)
      else ([], [], c :: s)

def isDecimal (c : Char) : Bool := c.isDigit

def spanDecimal : List Char → List Char × List Char × List Char
  | '_' :: s => ([], [], '_' :: s)
  | s => spanGrouped isDecimal s

def baseOf? (c : Char) : Option Nat :=
  match c.toLower with
  | 'x' => some 16
  | 'o' => some 8
  | 'b' => some 2
  | _ => none

def isDigitOf (base : Nat) (c : Char) : Bool :=
  match Text.hexValue? c with
  | some d => d < base
  | none => false

def valueIn (base : Nat) (ds : List Char) : Nat :=
  ds.foldl (fun n c => base * n + (Text.hexValue? c).getD 0) 0

def digitNumbers (ds : List Char) : List Nat :=
  ds.map (fun c => c.toNat - 0x30)

/-- The exponent at the head of a text, if there is one: its value, what it takes and the rest. -/
def spanExponent (s : List Char) : Option (Int × List Char × List Char) :=
  match s with
  | e :: t =>
      if e = 'e' || e = 'E' then
        match t with
        | '+' :: u =>
            match spanDecimal u with
            | ([], _, _) => none
            | (ds, taken, rest) =>
                some (Text.digitsValue (digitNumbers ds), e :: '+' :: taken, rest)
        | '-' :: u =>
            match spanDecimal u with
            | ([], _, _) => none
            | (ds, taken, rest) =>
                some (-(Text.digitsValue (digitNumbers ds) : Int), e :: '-' :: taken, rest)
        | u =>
            match spanDecimal u with
            | ([], _, _) => none
            | (ds, taken, rest) => some (Text.digitsValue (digitNumbers ds), e :: taken, rest)
      else none
  | [] => none

/-- A number may be followed by a word only if that is one of a few keywords. -/
def endsNumber (rest : List Char) : Bool :=
  let w := rest.takeWhile isWordChar
  w.isEmpty || keywordsAfterNumber.contains (String.ofList w)

/-- A decimal number: an integer, a fraction or an imaginary number. Zeros in front are for
fractions, for imaginary numbers and for zero alone. -/
def decimalNumber? (s : List Char) : Option (Constant × List Char × List Char) :=
  let (whole, taken, rest) := spanDecimal s
  let (point, fraction, taken, rest) :=
    match rest with
    | '.' :: t =>
        let (ds, more, rest) := spanDecimal t
        (true, ds, taken ++ '.' :: more, rest)
    | _ => (false, [], taken, rest)
  let (exponent, taken, rest) :=
    match spanExponent rest with
    | some (e, more, rest) => (some e, taken ++ more, rest)
    | none => (none, taken, rest)
  let numeral : Numeral := ⟨false, digitNumbers whole, digitNumbers fraction, exponent.getD 0⟩
  match rest with
  | j :: t =>
      if j = 'j' || j = 'J' then some (.imaginary numeral.toFloat, taken ++ [j], t)
      else finish point exponent whole numeral taken rest
  | [] => finish point exponent whole numeral taken rest
where
  finish (point : Bool) (exponent : Option Int) (whole : List Char) (numeral : Numeral)
      (taken rest : List Char) : Option (Constant × List Char × List Char) :=
    if point || exponent.isSome then some (.double numeral.toFloat, taken, rest)
    else if whole.head? = some '0' && whole.any (· != '0') then none
    else some (.whole (valueIn 10 whole), taken, rest)

def number? (s : List Char) : Option (Constant × List Char × List Char) :=
  let found :=
    match s with
    | '0' :: b :: t =>
        match baseOf? b with
        | some base =>
            match spanGrouped (isDigitOf base) t with
            | ([], _, _) => none
            | (ds, taken, rest) => some (.whole (valueIn base ds), '0' :: b :: taken, rest)
        | none => decimalNumber? s
    | s => decimalNumber? s
  match found with
  | some (c, taken, rest) => if endsNumber rest then some (c, taken, rest) else none
  | none => none

/-! ### Strings -/

def stringPrefix? (w : String) : Option (Bool × Bool × Bool) :=
  match w with
  | "" => some (false, false, false)
  | "u" => some (false, false, false)
  | "b" => some (true, false, false)
  | "r" => some (false, true, false)
  | "f" => some (false, false, true)
  | "br" => some (true, true, false)
  | "rb" => some (true, true, false)
  | "fr" => some (false, true, true)
  | "rf" => some (false, true, true)
  | _ => none

def shortBody? (quote : Char) : List Char → Option (List Char × List Char)
  | [] => none
  | ['\\'] => none
  | '\\' :: c :: s => (shortBody? quote s).map (fun r => ('\\' :: c :: r.1, r.2))
  | c :: s =>
      if c = quote then some ([], s)
      else if c = '\n' then none
      else (shortBody? quote s).map (fun r => (c :: r.1, r.2))

def longBody? (quote : Char) : List Char → Option (List Char × List Char)
  | [] => none
  | ['\\'] => none
  | '\\' :: c :: s => (longBody? quote s).map (fun r => ('\\' :: c :: r.1, r.2))
  | c :: s =>
      if c = quote && s.take 2 = [quote, quote] then some ([], s.drop 2)
      else (longBody? quote s).map (fun r => (c :: r.1, r.2))

/-- The string at the head of a text: its piece, what it takes and the rest. There are two kinds of
failure: the text does not start a string, or its string does not end. -/
def string? (s : List Char) : Option (Option (Piece × List Char × List Char)) :=
  let letters := (s.take 3).takeWhile Char.isAlpha
  let rest := s.drop letters.length
  match stringPrefix? (String.ofList (letters.map Char.toLower)), rest with
  | some (bytes, raw, formatted), q :: t =>
      if q = '"' || q = '\x27' then
        let long := t.take 2 = [q, q]
        let body := if long then longBody? q (t.drop 2) else shortBody? q t
        let marks := if long then [q, q, q] else [q]
        some (body.map (fun r =>
          (⟨bytes, raw, formatted, r.1⟩, letters ++ marks ++ r.1 ++ marks, r.2)))
      else none
  | _, _ => none

def symbol? (s : List Char) : Option String :=
  let s3 := String.ofList (s.take 3)
  let s2 := String.ofList (s.take 2)
  let s1 := String.ofList (s.take 1)
  if symbols3.contains s3 then some s3
  else if symbols2.contains s2 then some s2
  else if symbols1.contains s1 then some s1
  else none

def token? (s : List Char) : Option (Token × List Char × List Char) :=
  match s with
  | [] => none
  | c :: t =>
      match string? s with
      | some found => found.map (fun r => (.string r.1, r.2.1, r.2.2))
      | none =>
          if isWordStart c then
            let w := s.takeWhile isWordChar
            (wordToken? w).map (fun k => (k, w, s.dropWhile isWordChar))
          else if c.isDigit || (c = '.' && (t.head?.map Char.isDigit).getD false) then
            (number? s).map (fun r => (.number r.1, r.2.1, r.2.2))
          else
            (symbol? s).map (fun k => (.op k, k.toList, s.drop k.length))

/-! ### Lines and brackets -/

def unifyLineEnds : List Char → List Char
  | '\r' :: '\n' :: s => '\n' :: unifyLineEnds s
  | '\r' :: s => '\n' :: unifyLineEnds s
  | c :: s => c :: unifyLineEnds s
  | [] => []

/-- The number of bytes in front of what follows, after some characters in a line. -/
def advance (offset : Nat) (taken : List Char) : Nat :=
  taken.foldl (fun n c => if c = '\n' then 0 else n + c.utf8Size) offset

def closes (opening symbol : String) : Bool :=
  (opening = "(" && symbol = ")") || (opening = "[" && symbol = "]") ||
    (opening = "\x7b" && symbol = "\x7d")

def isOpening (symbol : String) : Bool :=
  symbol = "(" || symbol = "[" || symbol = "\x7b"

def isClosing (symbol : String) : Bool :=
  symbol = ")" || symbol = "]" || symbol = "\x7d"

def bracketsAfter? (stack : List String) : Token → Option (List String)
  | .op k =>
      if isOpening k then
        if stack.length < bracketLimit then some (k :: stack) else none
      else if isClosing k then
        match stack with
        | o :: rest => if closes o k then some rest else none
        | [] => none
      else some stack
  | _ => some stack

/-- How far the start of a line stands from the margin. -/
structure Margin where
  column : Nat
  /-- The column of the first backslash in front of the line that does not stand at the margin, or
  zero. It decides where the line starts. -/
  split : Nat

namespace Margin

def atEdge : Margin := ⟨0, 0⟩

/-- A tab goes to the next column that eight divides, and a form feed goes back to the margin. -/
def afterBlank (m : Margin) (c : Char) : Margin :=
  if c = ' ' then { m with column := m.column + 1 }
  else if c = '\t' then { m with column := (m.column / 8 + 1) * 8 }
  else { m with column := 0 }

def afterBackslash (m : Margin) : Margin :=
  if m.split = 0 then { m with split := m.column } else m

def isAtEdge (m : Margin) : Bool :=
  if m.split = 0 then m.column = 0 else false

end Margin

structure Position where
  offset : Nat
  brackets : List String
  /-- The blanks of a line that has no token yet. -/
  margin? : Option Margin

/-- Outside of brackets, a line that holds a token starts at the margin. -/
def Position.allowsToken (p : Position) : Bool :=
  !p.brackets.isEmpty || (p.margin?.map Margin.isAtEdge).getD true

def isLineBlank (c : Char) : Bool :=
  c = ' ' || c = '\t' || c.toNat = 12

/-- The lexemes of a text. Every step takes a character, so that the length of the text bounds the
steps. Lines without tokens leave nothing, whatever their blanks. -/
def lexFrom : Nat → Position → List Char → Option (List Lexeme)
  | 0, _, _ => none
  | _ + 1, p, [] => if p.brackets.isEmpty then some [] else none
  | fuel + 1, p, c :: s =>
      if isLineBlank c then
        lexFrom fuel
          { p with offset := p.offset + 1, margin? := p.margin?.map (·.afterBlank c) } s
      else if c = '#' then
        lexFrom fuel p (s.dropWhile (· != '\n'))
      else if c = '\n' then
        let next := { p with offset := 0, margin? := some .atEdge }
        if p.brackets.isEmpty && p.margin?.isNone then
          (lexFrom fuel next s).map (⟨.lineEnd, p.offset⟩ :: ·)
        else lexFrom fuel next s
      else if c = '\\' then
        match s with
        | '\n' :: d :: s =>
            lexFrom fuel { p with offset := 0, margin? := p.margin?.map (·.afterBackslash) } (d :: s)
        | _ => none
      else if p.allowsToken then
        match token? (c :: s) with
        | none => none
        | some (k, taken, rest) =>
            match bracketsAfter? p.brackets k with
            | none => none
            | some brackets =>
                (lexFrom fuel ⟨advance p.offset taken, brackets, none⟩ rest).map
                  (⟨k, p.offset⟩ :: ·)
      else none

def lex? (s : List Char) : Option (List Lexeme) :=
  let s := unifyLineEnds s
  lexFrom (s.length + 1) ⟨0, [], some .atEdge⟩ s

end Appraisal.Formula
