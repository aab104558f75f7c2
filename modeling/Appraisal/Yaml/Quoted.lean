import Appraisal.Yaml.Cursor

/-!
# Quoted scalars

A scalar between single quotes holds its characters as they are, a single quote written twice. Between
double quotes a backslash starts an escape. In both, a line break together with the blanks around it
counts as a space, and each further break as a line feed. An escaped code point is one letter, which
can be a surrogate.
-/

namespace Appraisal.Yaml.Quoted

def escapes : List (Char × Nat) :=
  [('0', 0x00), ('a', 0x07), ('b', 0x08), ('t', 0x09), ('\t', 0x09), ('n', 0x0A), ('v', 0x0B),
   ('f', 0x0C), ('r', 0x0D), ('e', 0x1B), (' ', 0x20), ('"', 0x22), ('\\', 0x5C), ('/', 0x2F),
   ('N', 0x85), ('_', 0xA0), ('L', 0x2028), ('P', 0x2029)]

/-- The number of digits behind an escape that gives a code point. -/
def codeLength? (c : Char) : Option Nat :=
  if c = 'x' then some 2 else if c = 'u' then some 4 else if c = 'U' then some 8 else none

def letter (code : Nat) : Except Error Letter :=
  if code < 0x110000 then .ok (.ofCode code)
  else if code < 0x80000000 then
    .error (.refused (.stated .value "chr() arg not in range(0x110000)"))
  else .error (.refused (.stated .range "Python int too large to convert to C int"))

def codePoint (start : Place) (length : Nat) (c : Cursor) : Except Error (Letter × Cursor) := do
  match Text.hexDigits? length c.rest with
  | some (code, _) => return (← letter code, c.skip length)
  | none =>
      let bad := c.peekAt (c.run (fun d => (Text.hexValue? d).isSome)).length
      throw (c.complaint "while scanning a double-quoted scalar" start
        ("expected escape sequence of " ++ intText length ++ " hexadecimal numbers, but found " ++
          quotedChar bad))

/-- The breaks of empty lines. No line may separate documents. -/
def breaks (start : Place) : Nat → Cursor → Except Error (List Char × Cursor)
  | 0, c => .ok ([], c)
  | fuel + 1, c =>
      if c.atSeparator then
        .error (c.complaint "while scanning a quoted scalar" start
          "found unexpected document separator")
      else
        match (c.behind isBlank).lineBreak with
        | ([], c) => .ok ([], c)
        | (br, c) => (breaks start fuel c).map (fun r => (br ++ r.1, r.2))

def folded (first : List Char) (others : List Char) : List Char :=
  if first ≠ ['\n'] then first ++ others else if others.isEmpty then [' '] else others

/-- Reads blanks, which count unless the line ends with them. -/
def space (start : Place) (c : Cursor) : Except Error (List Char × Cursor) := do
  let blanks := c.run isBlank
  let c := c.behind isBlank
  if c.peek = nul then
    throw (c.complaint "while scanning a quoted scalar" start "found unexpected end of stream")
  else if isBreak c.peek then
    let (first, c) := c.lineBreak
    let (others, c) ← breaks start (c.left + 1) c
    return (folded first others, c)
  else return (blanks, c)

def asLetters (r : Except Error (List Char × Cursor)) : Except Error (List Letter × Cursor) :=
  r.map (fun r => (r.1.map .char, r.2))

def escape (start : Place) (c : Cursor) : Except Error (List Letter × Cursor) := do
  let ch := c.peek
  match escapes.find? (fun e => e.1 = ch), codeLength? ch with
  | some (_, code), _ => return ([.ofCode code], c.next)
  | none, some length =>
      let (letter, c) ← codePoint start length c.next
      return ([letter], c)
  | none, none =>
      if isBreak ch then asLetters (breaks start (c.left + 1) c.lineBreak.2)
      else
        throw (c.complaint "while scanning a double-quoted scalar" start
          ("found unknown escape character " ++ quotedChar ch))

/-- Reads one piece of a scalar; none at its closing quote. -/
def piece (quote : Char) (start : Place) (c : Cursor) :
    Except Error (Option (List Letter × Cursor)) :=
  let ch := c.peek
  if ch = quote then
    if quote = '\x27' && c.peekAt 1 = quote then .ok (some ([.char quote], c.skip 2)) else .ok none
  else if ch = '\\' && quote = '"' then (escape start c.next).map some
  else if endsItem ch then (asLetters (space start c)).map some
  else .ok (some ([.char ch], c.next))

def pieces (quote : Char) (start : Place) : Nat → Cursor → Except Error (List Letter × Cursor)
  | 0, c => .ok ([], c)
  | fuel + 1, c => do
      match ← piece quote start c with
      | none => return ([], c.next)
      | some (cs, c) =>
          let (rest, c) ← pieces quote start fuel c
          return (cs ++ rest, c)

def read (c : Cursor) : Except Error (List Letter × Cursor) :=
  pieces c.peek c.place (c.left + 1) c.next

end Appraisal.Yaml.Quoted
