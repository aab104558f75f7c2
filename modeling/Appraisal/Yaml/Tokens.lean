import Appraisal.Yaml.Block
import Appraisal.Yaml.Name
import Appraisal.Yaml.Plain

/-!
# The tokens of a text

Tokens are taken from the left. Outside brackets a token that stands further to the right than the
block around it starts a block, and one that stands further to the left ends blocks. A scalar, an
alias or a bracket is known to be a key only when a colon follows it, on the same line and within 1024
characters; then a token for the key is put in front of it.
-/

namespace Appraisal.Yaml

/-- A token that may turn out to be a key, by its place among the tokens. -/
structure PossibleKey where
  token : Nat
  index : Nat
  place : Place
  /-- Does the block around it have to go on with a key here? -/
  isRequired : Bool

/-- What has been read of a text. Columns of blocks count from zero; minus one stands for no block. -/
structure Scan where
  cursor : Cursor
  /-- The tokens, the last one first. -/
  tokens : List Token := []
  count : Nat := 0
  /-- The number of brackets that are open. -/
  flowLevel : Nat := 0
  indent : Int := -1
  outerIndents : List Int := []
  allowsKey : Bool := true
  /-- The possible key on each level of brackets. -/
  keys : List (Nat × PossibleKey) := []

namespace Scan

/-- The longest text of a key, and the distance to its colon. -/
def keyLimit : Nat := 1024

def inFlow (s : Scan) : Bool := s.flowLevel != 0

def push (s : Scan) (kind : TokenKind) (start finish : Place) : Scan :=
  { s with tokens := ⟨kind, start, finish⟩ :: s.tokens, count := s.count + 1 }

def insert (s : Scan) (index : Nat) (kind : TokenKind) (place : Place) : Scan :=
  let behind := s.count - index
  { s with
    tokens := s.tokens.take behind ++ ⟨kind, place, place⟩ :: s.tokens.drop behind
    count := s.count + 1 }

def mark (s : Scan) (kind : TokenKind) : Scan := s.push kind s.cursor.place s.cursor.place

def take (s : Scan) (kind : TokenKind) (n : Nat := 1) : Scan :=
  let next := s.cursor.skip n
  { s.push kind s.cursor.place next.place with cursor := next }

def allowing (s : Scan) (allowsKey : Bool) : Scan := { s with allowsKey }

/-! ### Possible keys -/

def noColon (s : Scan) (key : PossibleKey) : Error :=
  s.cursor.complaint "while scanning a simple key" key.place "could not find expected \x27:\x27"

def isStale (s : Scan) (key : PossibleKey) : Bool :=
  key.place.line != s.cursor.place.line || keyLimit < s.cursor.index - key.index

/-- Gives up the possible keys that no colon can follow any more. -/
def withoutStale (s : Scan) : Except Error Scan :=
  match s.keys.find? (fun k => s.isStale k.2 && k.2.isRequired) with
  | some (_, key) => .error (s.noColon key)
  | none => .ok { s with keys := s.keys.filter (fun k => !s.isStale k.2) }

def possibleKey? (s : Scan) : Option PossibleKey :=
  (s.keys.find? (fun k => k.1 = s.flowLevel)).map Prod.snd

def dropKey (s : Scan) : Scan :=
  { s with keys := s.keys.filter (fun k => k.1 != s.flowLevel) }

def withoutKey (s : Scan) : Except Error Scan :=
  match s.possibleKey? with
  | some key => if key.isRequired then .error (s.noColon key) else .ok s.dropKey
  | none => .ok s

def withKey (s : Scan) : Except Error Scan := do
  if s.allowsKey then
    let s ← s.withoutKey
    let isRequired := !s.inFlow && s.indent = s.cursor.column
    let key : PossibleKey := ⟨s.count, s.cursor.index, s.cursor.place, isRequired⟩
    return { s with keys := s.keys ++ [(s.flowLevel, key)] }
  else return s

/-! ### Blocks -/

def closeBlocks (column : Int) : List Int → Scan → Scan
  | [], s => s
  | outer :: rest, s =>
      if s.indent ≤ column then s
      else closeBlocks column rest { s.mark .blockEnd with indent := outer, outerIndents := rest }

def unwound (s : Scan) (column : Int) : Scan :=
  if s.inFlow then s else closeBlocks column s.outerIndents s

/-- Starts a block at a column, if it is one further than the block around it. -/
def openBlock? (s : Scan) (column : Nat) : Option Scan :=
  if s.indent < column then
    some { s with outerIndents := s.indent :: s.outerIndents, indent := column }
  else none

def openBlock (s : Scan) (kind : TokenKind) : Scan :=
  match s.openBlock? s.cursor.column with
  | some s => s.mark kind
  | none => s

/-! ### The single tokens -/

/-- Skips spaces, comments and line breaks. Behind a line break a block may go on with a key. -/
def toToken : Nat → Scan → Scan
  | 0, s => s
  | fuel + 1, s =>
      match s.cursor.behindComment.lineBreak with
      | ([], cursor) => { s with cursor }
      | (_, cursor) => toToken fuel { s with cursor, allowsKey := s.allowsKey || !s.inFlow }

def atEnd (s : Scan) : Except Error Scan := do
  let s ← (s.unwound (-1)).withoutKey
  return s.mark .streamEnd

def directive (s : Scan) : Except Error Scan := do
  let s ← (s.unwound (-1)).withoutKey
  let (d, cursor) ← Name.directive s.cursor
  return { (s.allowing false).push (.directive d) s.cursor.place cursor.place with cursor }

def separator (s : Scan) (kind : TokenKind) : Except Error Scan := do
  let s ← (s.unwound (-1)).withoutKey
  return (s.allowing false).take kind 3

def flowStart (s : Scan) (kind : TokenKind) : Except Error Scan := do
  let s ← s.withKey
  return ({ s with flowLevel := s.flowLevel + 1 }.allowing true).take kind

def flowEnd (s : Scan) (kind : TokenKind) : Except Error Scan := do
  let s ← s.withoutKey
  return ({ s with flowLevel := s.flowLevel - 1 }.allowing false).take kind

def flowEntry (s : Scan) : Except Error Scan := do
  let s ← (s.allowing true).withoutKey
  return s.take .flowEntry

/-- Opens a block in front of a mark, which has to stand where a key may stand. -/
def inBlock (s : Scan) (start : TokenKind) (complaint : String) : Except Error Scan :=
  if s.inFlow then .ok s
  else if s.allowsKey then .ok (s.openBlock start)
  else .error (.complaint (.only complaint s.cursor.place))

def blockEntry (s : Scan) : Except Error Scan := do
  let s ← s.inBlock .blockSequenceStart "sequence entries are not allowed here"
  let s ← (s.allowing true).withoutKey
  return s.take .blockEntry

def key (s : Scan) : Except Error Scan := do
  let s ← s.inBlock .blockMappingStart "mapping keys are not allowed here"
  let s ← (s.allowing (!s.inFlow)).withoutKey
  return s.take .key

/-- Puts the token for a key in front of it, and the start of a block if it is the first key. -/
def markKey (s : Scan) (k : PossibleKey) : Scan :=
  let s := s.insert k.token .key k.place
  match if s.inFlow then none else s.openBlock? k.place.column with
  | some s => s.insert k.token .blockMappingStart k.place
  | none => s

def value (s : Scan) : Except Error Scan := do
  match s.possibleKey? with
  | some k => return ((s.dropKey.markKey k).allowing false).take .value
  | none =>
      let s ← s.inBlock .blockMappingStart "mapping values are not allowed here"
      let s ← (s.allowing (!s.inFlow)).withoutKey
      return s.take .value

def item (s : Scan) (read : Cursor → Except Error (TokenKind × Cursor)) : Except Error Scan := do
  let s ← s.withKey
  let (kind, cursor) ← read s.cursor
  return { (s.allowing false).push kind s.cursor.place cursor.place with cursor }

def reference (s : Scan) : Except Error Scan :=
  s.item (fun c => (Name.anchor "alias" c).map (fun r => (.reference r.1, r.2)))

def anchor (s : Scan) : Except Error Scan :=
  s.item (fun c => (Name.anchor "anchor" c).map (fun r => (.anchor r.1, r.2)))

def tag (s : Scan) : Except Error Scan :=
  s.item (fun c => (Name.tag c).map (fun r => (.tag r.1.1 r.1.2, r.2)))

def quoted (s : Scan) : Except Error Scan :=
  s.item (fun c => (Quoted.read c).map (fun r => (.scalar (.ofList r.1) false, r.2)))

def blockScalar (s : Scan) : Except Error Scan := do
  let s ← (s.allowing true).withoutKey
  let (text, cursor) ← Block.read s.indent s.cursor
  return { s.push (.scalar (String.ofList text) false) s.cursor.place cursor.place with cursor }

/-- Behind a plain scalar whose line has ended a key may stand. -/
def plain (s : Scan) : Except Error Scan := do
  let s ← s.withKey
  let r := Plain.read s.inFlow (s.indent + 1) s.cursor
  return { s.push (.scalar (String.ofList r.text) true) s.cursor.place r.finish with
    cursor := r.cursor, allowsKey := r.endedLine }

def startsPlain (s : Scan) (ch following : Char) : Bool :=
  !(endsItem ch || "-?:,[]\x7b\x7d#&*!|>'\"%@\x60".toList.contains ch) ||
    (!endsItem following && (ch = '-' || (!s.inFlow && (ch = '?' || ch = ':'))))

def token (s : Scan) : Except Error Scan :=
  let c := s.cursor
  let ch := c.peek
  let atMark := s.inFlow || endsItem (c.peekAt 1)
  if c.column = 0 && ch = '%' then s.directive
  else if c.column = 0 && ch = '-' && c.atSeparator then s.separator .documentStart
  else if c.column = 0 && ch = '.' && c.atSeparator then s.separator .documentEnd
  else if ch = '[' then s.flowStart .flowSequenceStart
  else if ch = '\x7b' then s.flowStart .flowMappingStart
  else if ch = ']' then s.flowEnd .flowSequenceEnd
  else if ch = '\x7d' then s.flowEnd .flowMappingEnd
  else if ch = ',' then s.flowEntry
  else if ch = '-' && endsItem (c.peekAt 1) then s.blockEntry
  else if ch = '?' && atMark then s.key
  else if ch = ':' && atMark then s.value
  else if ch = '*' then s.reference
  else if ch = '&' then s.anchor
  else if ch = '!' then s.tag
  else if (ch = '|' || ch = '>') && !s.inFlow then s.blockScalar
  else if ch = '\x27' || ch = '"' then s.quoted
  else if s.startsPlain ch (c.peekAt 1) then s.plain
  else
    .error (.complaint ⟨some ("while scanning for the next token", none),
      "found character " ++ quotedChar ch ++ " that cannot start any token", c.place⟩)

def step (s : Scan) : Except Error (Scan × Bool) := do
  let s ← (toToken (s.cursor.left + 1) s).withoutStale
  let s := s.unwound s.cursor.column
  if s.cursor.peek = nul then return (← s.atEnd, true)
  else return (← s.token, false)

def run : Nat → Scan → Scan
  | 0, s => s
  | fuel + 1, s =>
      match s.step with
      | .ok (s, isLast) => if isLast then s else run fuel s
      | .error e => s.mark (.broken e)

def unified : List Char → List Char
  | '\r' :: '\n' :: rest => '\n' :: unified rest
  | '\r' :: rest => '\n' :: unified rest
  | c :: rest => c :: unified rest
  | [] => []

def start (cs : List Char) : Scan :=
  let c : Cursor := ⟨cs, cs.length, 0, {}⟩
  { cursor := if c.peek = byteOrderMark then c.next else c }

end Scan

/-- The tokens of a text, with an error or the end of the text as the last one. -/
def tokens (text : String) : List Token :=
  let cs := Scan.unified text.toList
  match cs.findIdx? (!isAllowed ·) with
  | some i => [⟨.broken (.unprintable (cs.getD i nul).toNat i), {}, {}⟩]
  | none => (Scan.run (cs.length + 2) (Scan.start cs)).tokens.reverse

end Appraisal.Yaml
