import Appraisal.Yaml.Error

/-!
# Reading a document character by character

Lines end with a line feed, with the next-line character or with one of the two separators of Unicode;
the first two count as a line feed. The end of a text reads as the NUL character, which no document may
hold. The main statements: what a cursor takes and what it leaves is what was in front of it, and a
step leaves less.
-/

namespace Appraisal.Yaml

def nul : Char := Char.ofNat 0

def byteOrderMark : Char := '\uFEFF'

def isAllowed (c : Char) : Bool :=
  let n := c.toNat
  c = '\t' || c = '\n' || c = '\r' || (0x20 ≤ n && n ≤ 0x7E) || n = 0x85 ||
    (0xA0 ≤ n && n ≤ 0xFFFD) || 0x10000 ≤ n

def isBreak (c : Char) : Bool :=
  c = '\n' || c = '\x85' || c = '\u2028' || c = '\u2029'

def isBlank (c : Char) : Bool := c = ' ' || c = '\t'

def endsLine (c : Char) : Bool := c = nul || isBreak c

/-- Does a character end what has to be separated by spaces? -/
def endsWord (c : Char) : Bool := c = ' ' || endsLine c

def endsItem (c : Char) : Bool := c = '\t' || endsWord c

/-- The characters of names of anchors, directives and tag handles. -/
def isNameChar (c : Char) : Bool := c.isAlphanum || c = '-' || c = '_'

def isTagChar (c : Char) : Bool :=
  c.isAlphanum || "-;/?:@&=+$,_.!~*'()[]%".toList.contains c

def Place.past (p : Place) (c : Char) : Place :=
  if isBreak c then ⟨p.line + 1, 0⟩
  else if c = byteOrderMark then p
  else ⟨p.line, p.column + 1⟩

/-- What is left of a text of `size` characters, and where it starts. -/
structure Cursor where
  rest : List Char
  size : Nat
  index : Nat := 0
  place : Place := {}
  deriving Repr

def quotedChar (c : Char) : String := Text.quoted c.toString

namespace Cursor

def peek (c : Cursor) : Char := c.rest.headD nul

def peekAt (c : Cursor) (n : Nat) : Char := c.rest.getD n nul

def next (c : Cursor) : Cursor :=
  match c.rest with
  | [] => c
  | ch :: rest => ⟨rest, c.size, c.index + 1, c.place.past ch⟩

def skip : Nat → Cursor → Cursor
  | 0, c => c
  | n + 1, c => skip n c.next

def run (c : Cursor) (p : Char → Bool) : List Char := c.rest.takeWhile p

def behind (c : Cursor) (p : Char → Bool) : Cursor := c.skip (c.run p).length

def left (c : Cursor) : Nat := c.size - c.index

def column (c : Cursor) : Nat := c.place.column

def complaint (c : Cursor) (context : String) (start : Place) (problem : String) : Error :=
  .complaint (.during context start problem c.place)

def unexpected (c : Cursor) (context : String) (start : Place) (expected : String) : Error :=
  c.complaint context start ("expected " ++ expected ++ ", but found " ++ quotedChar c.peek)

def lineBreak (c : Cursor) : List Char × Cursor :=
  let ch := c.peek
  if ch = '\n' || ch = '\x85' then (['\n'], c.next)
  else if isBreak ch then ([ch], c.next)
  else ([], c)

def atSeparator (c : Cursor) : Bool :=
  let mark := c.rest.take 3
  (mark = ['-', '-', '-'] || mark = ['.', '.', '.']) && endsItem (c.peekAt 3)

def behindComment (c : Cursor) : Cursor :=
  let c := c.behind (· = ' ')
  if c.peek = '#' then c.behind (!endsLine ·) else c

end Cursor

end Appraisal.Yaml
