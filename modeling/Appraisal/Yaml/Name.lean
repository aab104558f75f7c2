import Appraisal.Datum.Conversion
import Appraisal.Yaml.Token

/-!
# Anchors, tags and directives

The tokens that are made of names. A tag is written in full, or with a handle that stands for the start
of its text. A directive takes a line; it gives the version of the format or the meaning of a handle.
-/

namespace Appraisal.Yaml.Name

def anchor (what : String) (c : Cursor) : Except Error (String × Cursor) := do
  let wrong (at_ : Cursor) : Error :=
    at_.unexpected ("while scanning an " ++ what) c.place "alphabetic or numeric character"
  let inner := c.next
  let name := inner.run isNameChar
  let behind := inner.behind isNameChar
  if name.isEmpty then throw (wrong inner)
  else if endsItem behind.peek || "?:,]\x7d%@\x60".toList.contains behind.peek then
    return (String.ofList name, behind)
  else throw (wrong behind)

/-! ### Tags -/

def bytes (context : String) (start : Place) :
    Nat → Cursor → Except Error (List UInt8 × Cursor)
  | 0, c => .ok ([], c)
  | fuel + 1, c =>
      if c.peek ≠ '%' then .ok ([], c)
      else
        let c := c.next
        match Text.hexDigits? 2 c.rest with
        | some (n, _) =>
            (bytes context start fuel (c.skip 2)).map (fun r => (UInt8.ofNat n :: r.1, r.2))
        | none =>
            let bad := if (Text.hexValue? c.peek).isSome then c.peekAt 1 else c.peek
            .error (c.complaint context start
              ("expected URI escape sequence of 2 hexadecimal numbers, but found " ++
                quotedChar bad))

def escaped (context : String) (start : Place) (c : Cursor) :
    Except Error (List Char × Cursor) := do
  let (bytes, next) ← bytes context start (c.left + 1) c
  match String.fromUTF8? (ByteArray.mk bytes.toArray) with
  | some s => return (s.toList, next)
  | none =>
      throw (c.complaint context start
        ("\x27utf-8\x27 codec can\x27t decode byte 0x" ++
          String.ofList (Text.hex 2 (bytes.headD 0).toNat) ++ " in position 0: invalid start byte"))

def tagChars (what : String) (start : Place) : Nat → Cursor → Except Error (List Char × Cursor)
  | 0, c => .ok ([], c)
  | fuel + 1, c => do
      let ch := c.peek
      if ch = '%' then
        let (cs, c) ← escaped ("while scanning a " ++ what) start c
        let (rest, c) ← tagChars what start fuel c
        return (cs ++ rest, c)
      else if isTagChar ch then
        let (rest, c) ← tagChars what start fuel c.next
        return (ch :: rest, c)
      else return ([], c)

def tagText (what : String) (start : Place) (c : Cursor) : Except Error (String × Cursor) :=
  if isTagChar c.peek then
    (tagChars what start (c.left + 1) c).map (fun r => (String.ofList r.1, r.2))
  else .error (c.unexpected ("while parsing a " ++ what) start "URI")

/-- Reads a handle: an exclamation mark, or a name between two of them. -/
def handle (what : String) (start : Place) (c : Cursor) : Except Error (String × Cursor) :=
  let wrong (c : Cursor) : Error := c.unexpected ("while scanning a " ++ what) start "\x27!\x27"
  let inner := c.next
  let behind := inner.behind isNameChar
  if c.peek ≠ '!' then .error (wrong c)
  else if inner.peek = ' ' then .ok ("!", inner)
  else if behind.peek ≠ '!' then .error (wrong behind)
  else .ok (String.ofList ('!' :: inner.run isNameChar ++ ['!']), behind.next)

def tag (c : Cursor) : Except Error ((Option String × String) × Cursor) := do
  let start := c.place
  let ch := c.peekAt 1
  let (t, behind) ←
    if ch = '<' then do
      let (text, c) ← tagText "tag" start (c.skip 2)
      if c.peek ≠ '>' then throw (c.unexpected "while parsing a tag" start "\x27>\x27")
      pure ((none, text), c.next)
    else if endsItem ch then pure ((none, "!"), c.next)
    else do
      let named := (c.next.run (!endsWord ·)).contains '!'
      let (handle, c) ← if named then handle "tag" start c else pure ("!", c.next)
      let (text, c) ← tagText "tag" start c
      pure ((some handle, text), c)
  if endsWord behind.peek then return (t, behind)
  else throw (behind.unexpected "while scanning a tag" start "\x27 \x27")

/-! ### Directives -/

def context : String := "while scanning a directive"

def number (start : Place) (c : Cursor) : Except Error (Int × Cursor) :=
  let ds := c.run Char.isDigit
  if ds.isEmpty then .error (c.unexpected context start "a digit")
  else
    match Datum.wholeOfText (String.ofList ds) with
    | .ok n => .ok (n, c.behind Char.isDigit)
    | .error r => .error (.refused r)

/-- Reads a version, of which the first number counts. -/
def version (start : Place) (c : Cursor) : Except Error (Directive × Cursor) := do
  let (major, c) ← number start (c.behind (· = ' '))
  if c.peek ≠ '.' then throw (c.unexpected context start "a digit or \x27.\x27")
  let (_, c) ← number start c.next
  if endsWord c.peek then return (.version major.toNat, c)
  else throw (c.unexpected context start "a digit or \x27 \x27")

def meaning (start : Place) (c : Cursor) : Except Error (Directive × Cursor) := do
  let what := "directive"
  let (name, c) ← handle what start (c.behind (· = ' '))
  if c.peek ≠ ' ' then throw (c.unexpected context start "\x27 \x27")
  let (lead, c) ← tagText what start (c.behind (· = ' '))
  if endsWord c.peek then return (.handle name lead, c)
  else throw (c.unexpected context start "\x27 \x27")

def directive (c : Cursor) : Except Error (Directive × Cursor) := do
  let start := c.place
  let inner := c.next
  let name := String.ofList (inner.run isNameChar)
  let behind := inner.behind isNameChar
  if name = "" || !endsWord behind.peek then
    throw (behind.unexpected context start "alphabetic or numeric character")
  let (d, c) ←
    if name = "YAML" then version start behind
    else if name = "TAG" then meaning start behind
    else pure (.unknown, behind.behind (!endsLine ·))
  let c := c.behindComment
  if endsLine c.peek then return (d, c.lineBreak.2)
  else throw (c.unexpected context start "a comment or a line break")

end Appraisal.Yaml.Name
