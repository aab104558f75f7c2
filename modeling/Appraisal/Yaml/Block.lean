import Appraisal.Yaml.Cursor

/-!
# Block scalars

The lines of a block scalar are indented by the same number of columns. A header says whether line
breaks are kept or folded, what becomes of the breaks at the end, and, if need be, by how many columns
the lines are indented.
-/

namespace Appraisal.Yaml.Block

/-- What becomes of the breaks at the end: all go, the first stays, all stay. -/
inductive Chomping
  | strip
  | clip
  | keep
  deriving DecidableEq, Repr

structure Header where
  chomping : Chomping := .clip
  indentation : Option Nat := none

def context : String := "while scanning a block scalar"

def chomping? (c : Char) : Option Chomping :=
  if c = '+' then some .keep else if c = '-' then some .strip else none

/-- The digit of an indentation, if there is one, which is not zero. -/
def indentation (start : Place) (c : Cursor) : Except Error (Option Nat × Cursor) :=
  if !c.peek.isDigit then .ok (none, c)
  else if c.peek = '0' then
    .error (c.complaint context start
      "expected indentation indicator in the range 1-9, but found 0")
  else .ok (some (c.peek.toNat - 0x30), c.next)

def marks (start : Place) (c : Cursor) : Except Error (Header × Cursor) := do
  match chomping? c.peek with
  | some chomping =>
      let (indentation, c) ← indentation start c.next
      return (⟨chomping, indentation⟩, c)
  | none =>
      let (indentation, c) ← indentation start c
      match indentation, chomping? c.peek with
      | some n, some chomping => return (⟨chomping, some n⟩, c.next)
      | indentation, _ => return (⟨.clip, indentation⟩, c)

def header (start : Place) (c : Cursor) : Except Error (Header × Cursor) := do
  let (header, c) ← marks start c
  if !endsWord c.peek then
    throw (c.unexpected context start "chomping or indentation indicators")
  let c := c.behindComment
  if !endsLine c.peek then
    throw (c.unexpected context start "a comment or a line break")
  return (header, c.lineBreak.2)

/-- The breaks in front of the first line that is not empty, and the widest indentation of them. -/
def leading (widest : Nat) : Nat → Cursor → List Char × Nat × Cursor
  | 0, c => ([], widest, c)
  | fuel + 1, c =>
      let inner := c.behind (· = ' ')
      let widest := if c.peek = ' ' then max widest inner.column else widest
      match inner.lineBreak with
      | ([], c) => ([], widest, c)
      | (br, c) =>
          let (others, widest, c) := leading widest fuel c
          (br ++ others, widest, c)

/-- The cursor behind at most as many spaces as a line is indented by. -/
def indented (indent : Nat) (c : Cursor) : Cursor :=
  c.skip (min (indent - c.column) (c.run (· = ' ')).length)

def breaks (indent : Nat) : Nat → Cursor → List Char × Cursor
  | 0, c => ([], c)
  | fuel + 1, c =>
      let c := indented indent c
      match c.lineBreak with
      | ([], c) => ([], c)
      | (br, c) =>
          let (others, c) := breaks indent fuel c
          (br ++ others, c)

def hasLine (indent : Nat) (c : Cursor) : Bool := c.column = indent && c.peek != nul

/-- Reads the lines behind some breaks. A break between two lines that do not start with a blank is
folded. -/
def lines (folded : Bool) (chomping : Chomping) (indent : Nat) :
    Nat → List Char → Cursor → List Char × Cursor
  | 0, _, c => ([], c)
  | fuel + 1, before, c =>
      let text := c.run (!endsLine ·)
      let (first, next) := (c.behind (!endsLine ·)).lineBreak
      let (others, next) := breaks indent (next.left + 1) next
      if hasLine indent next then
        let between :=
          if folded && first = ['\n'] && !isBlank c.peek && !isBlank next.peek then
            if others.isEmpty then [' '] else []
          else first
        let (rest, c) := lines folded chomping indent fuel others next
        (before ++ text ++ between ++ rest, c)
      else
        let tail :=
          match chomping with
          | .strip => []
          | .clip => first
          | .keep => first ++ others
        (before ++ text ++ tail, next)

/-- Reads a scalar from its mark on, in a block of an indentation. -/
def read (indent : Int) (c : Cursor) : Except Error (List Char × Cursor) := do
  let folded := c.peek = '>'
  let (header, c) ← header c.place c.next
  let least := (max (indent + 1) 1).toNat
  let fuel := c.left + 1
  let (before, indent, c) :=
    match header.indentation with
    | none =>
        let (before, widest, c) := leading 0 fuel c
        (before, max least widest, c)
    | some n =>
        let indent := least + n - 1
        let (before, c) := breaks indent fuel c
        (before, indent, c)
  if hasLine indent c then return lines folded header.chomping indent fuel before c
  else return (if header.chomping = .keep then before else [], c)

end Appraisal.Yaml.Block
