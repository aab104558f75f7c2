import Appraisal.Yaml.Quoted

/-!
# Plain scalars

A scalar without quotes ends where a comment, a colon that parts a key from its value or, inside
brackets, a bracket or a comma starts, or where a line is less indented than it has to be. Spaces and
line breaks inside it are folded as between quotes.
-/

namespace Appraisal.Yaml.Plain

def ends (inFlow : Bool) (ch following : Char) : Bool :=
  endsItem ch ||
    (ch = ':' && (endsItem following || (inFlow && ",[]\x7b\x7d".toList.contains following))) ||
    (inFlow && ",?[]\x7b\x7d".toList.contains ch)

def run (inFlow : Bool) : List Char → List Char
  | [] => []
  | ch :: rest => if ends inFlow ch (rest.headD nul) then [] else ch :: run inFlow rest

/-- The breaks of empty lines; none if a line separates documents. -/
def breaks? : Nat → Cursor → Option (List Char) × Cursor
  | 0, c => (some [], c)
  | fuel + 1, c =>
      let c := c.behind (· = ' ')
      match c.lineBreak with
      | ([], c) => (some [], c)
      | (br, c) =>
          if c.atSeparator then (none, c)
          else
            let (others, c) := breaks? fuel c
            (others.map (br ++ ·), c)

/-- What stands between two runs, nothing if the scalar has to end, and whether a line ended. -/
def gap (c : Cursor) : List Char × Bool × Cursor :=
  let spaces := c.run (· = ' ')
  let c := c.behind (· = ' ')
  match c.lineBreak with
  | ([], c) => (spaces, false, c)
  | (first, c) =>
      if c.atSeparator then ([], true, c)
      else
        match breaks? (c.left + 1) c with
        | (some others, c) => (Quoted.folded first others, true, c)
        | (none, c) => ([], true, c)

structure Result where
  text : List Char
  finish : Place
  /-- Did a line end behind the text? -/
  endedLine : Bool
  cursor : Cursor

def readFrom (inFlow : Bool) (indent : Int) : Nat → List Char → Result → Result
  | 0, _, r => r
  | fuel + 1, before, r =>
      let c := r.cursor
      let word := run inFlow c.rest
      if c.peek = '#' || word.isEmpty then r
      else
        let c := c.skip word.length
        let (between, endedLine, next) := gap c
        let r : Result := ⟨r.text ++ before ++ word, c.place, endedLine, next⟩
        if between.isEmpty || next.peek = '#' || (!inFlow && (next.column : Int) < indent) then r
        else readFrom inFlow indent fuel between r

def read (inFlow : Bool) (indent : Int) (c : Cursor) : Result :=
  readFrom inFlow indent (c.left + 1) [] ⟨[], c.place, false, c⟩

end Appraisal.Yaml.Plain
