import Appraisal.Yaml.Node
import Appraisal.Yaml.Scalar
import Appraisal.Yaml.Tokens

/-!
# The document of a text

Tokens are grouped into nodes. A node may be marked with an anchor, and an alias stands for the node
with its anchor; inside that node itself it stands for one without content. A text holds at most one
document, which directives may precede.
-/

namespace Appraisal.Yaml.Document

/-- What is left of the tokens, and what has been named. The last token is kept. -/
structure Rest where
  tokens : List Token
  anchors : List (String × Node) := []
  handles : List (String × String) := []

namespace Rest

def token (r : Rest) : Token := r.tokens.headD ⟨.streamEnd, {}, {}⟩

def kind (r : Rest) : TokenKind := r.token.kind

def place (r : Rest) : Place := r.token.start

def next (r : Rest) : Rest :=
  match r.tokens with
  | _ :: t :: rest => { r with tokens := t :: rest }
  | _ => r

/-- The error at the next token: its own if it holds one. -/
def error (r : Rest) (c : Complaint) : Error :=
  match r.kind with
  | .broken e => e
  | _ => .complaint c

def unexpected (r : Rest) (context : String) (start : Place) (expected : String) : Error :=
  r.error (.during context start (expected ++ Text.quoted r.kind.name) r.place)

def name (r : Rest) (anchor : Option String) (n : Node) : Rest :=
  match anchor with
  | some a => { r with anchors := (a, n) :: r.anchors }
  | none => r

end Rest

def depthLimit : Nat := 480

def emptyScalar (place : Place) : Node := .scalar .null "" place

/-! ### Anchors and tags in front of nodes -/

structure Marks where
  anchor : Option String := none
  tag : Option (Option String × String) := none
  /-- Where the first of them stands. -/
  start : Option Place := none
  tagPlace : Place := {}

def marks (r : Rest) : Marks × Rest :=
  match r.kind with
  | .anchor name =>
      let m : Marks := { anchor := some name, start := some r.place }
      match r.next.kind with
      | .tag handle rest =>
          ({ m with tag := some (handle, rest), tagPlace := r.next.place }, r.next.next)
      | _ => (m, r.next)
  | .tag handle rest =>
      let m : Marks := { tag := some (handle, rest), start := some r.place, tagPlace := r.place }
      match r.next.kind with
      | .anchor name => ({ m with anchor := some name }, r.next.next)
      | _ => (m, r.next)
  | _ => ({}, r)

/-- The text of a tag; none stands for the tag that says nothing. -/
def tagText (m : Marks) (start : Place) (r : Rest) : Except Error (Option String) :=
  match m.tag with
  | none => .ok none
  | some (none, rest) => .ok (some rest)
  | some (some handle, rest) =>
      match r.handles.find? (fun h => h.1 = handle) with
      | some (_, lead) => .ok (some (lead ++ rest))
      | none =>
          .error (.complaint (.during "while parsing a node" start
            ("found undefined tag handle " ++ Text.quoted handle) m.tagPlace))

def collectionTag (tag : Option String) (default : Tag) : Tag :=
  match tag with
  | none => default
  | some t => if t = "!" then default else .ofText t

/-- The tag of a scalar. A text without a tag shows its own if it is plain. -/
def scalarTag (tag : Option String) (text : Text) (isPlain : Bool) : Tag :=
  match tag with
  | none => if isPlain then Scalar.shownTag text else .text
  | some t => if t = "!" then Scalar.shownTag text else .ofText t

def checkAnchor (m : Marks) (start : Place) (r : Rest) : Except Error Unit :=
  match m.anchor.bind (fun a => r.anchors.find? (fun n => n.1 = a)) with
  | some (name, first) =>
      .error (.complaint (.during
        ("found duplicate anchor " ++ Text.quoted name ++ "; first occurrence") first.start
        "second occurrence" start))
  | none => .ok ()

/-! ### Nodes -/

inductive Position
  /-- Inside brackets. -/
  | flow
  | block
  /-- In a mapping, where a sequence need not be indented further. -/
  | entry
  deriving DecidableEq

mutual

def node : Nat → Nat → Position → Rest → Except Error (Node × Rest)
  | 0, _, _, _ => .error .tooDeep
  | fuel + 1, depth, position, r =>
      match r.kind with
      | .reference name =>
          match r.anchors.find? (fun n => n.1 = name) with
          | some (_, n) => .ok (n, r.next)
          | none =>
              .error (.complaint (.only ("found undefined alias " ++ Text.quoted name) r.place))
      | _ => do
          let (m, r) := marks r
          let start := m.start.getD r.place
          let tag ← tagText m start r
          let collection (default : Tag) (node : Tag → Node)
              (read : Rest → Except Error (Node × Rest)) : Except Error (Node × Rest) := do
            checkAnchor m start r
            if depthLimit ≤ depth then throw .tooDeep
            let (n, rest) ← read (r.name m.anchor (node (collectionTag tag default)))
            return (n, rest.name m.anchor n)
          let sequence (items : Rest → Except Error (List Node × Rest)) :
              Except Error (Node × Rest) :=
            collection .sequence (.sequence · [] start) (fun r => do
              let (ns, r) ← items r
              return (.sequence (collectionTag tag .sequence) ns start, r))
          let mapping (entries : Rest → Except Error (List (Node × Node) × Rest)) :
              Except Error (Node × Rest) :=
            collection .mapping (.mapping · [] start) (fun r => do
              let (es, r) ← entries r
              return (.mapping (collectionTag tag .mapping) es start, r))
          let scalar (text : Text) (isPlain : Bool) (r : Rest) : Except Error (Node × Rest) := do
            checkAnchor m start r
            let n := Node.scalar (scalarTag tag text isPlain) text start
            return (n, r.name m.anchor n)
          match r.kind, position with
          | .blockEntry, .entry => sequence (flatItems fuel (depth + 1))
          | .scalar text isPlain, _ => scalar text isPlain r.next
          | .flowSequenceStart, _ =>
              sequence (fun rest => flowItems fuel (depth + 1) r.place true rest.next)
          | .flowMappingStart, _ =>
              mapping (fun rest => flowEntries fuel (depth + 1) r.place true rest.next)
          | .blockSequenceStart, .block | .blockSequenceStart, .entry =>
              sequence (fun rest => blockItems fuel (depth + 1) r.place rest.next)
          | .blockMappingStart, .block | .blockMappingStart, .entry =>
              mapping (fun rest => blockEntries fuel (depth + 1) r.place rest.next)
          | _, _ =>
              if m.start.isSome then
                match r.kind with
                | .broken e => throw e
                | _ => scalar "" true r
              else
                throw (r.unexpected
                  ("while parsing a " ++ (if position = .flow then "flow" else "block") ++ " node")
                  start "expected the node content, but found ")

/-- Reads a node unless a token of some kinds follows; then the node is empty. -/
def nodeUnless :
    Nat → Nat → Position → (TokenKind → Bool) → Place → Rest → Except Error (Node × Rest)
  | 0, _, _, _, _, _ => .error .tooDeep
  | fuel + 1, depth, position, ends, place, r =>
      if ends r.kind then .ok (emptyScalar place, r) else node fuel depth position r

def valueOf : Nat → Nat → Position → (TokenKind → Bool) → Rest → Except Error (Node × Rest)
  | 0, _, _, _, _ => .error .tooDeep
  | fuel + 1, depth, position, ends, r =>
      match r.kind with
      | .value => nodeUnless fuel depth position ends r.token.finish r.next
      | .broken e => .error e
      | _ => .ok (emptyScalar r.place, r)

def blockItems : Nat → Nat → Place → Rest → Except Error (List Node × Rest)
  | 0, _, _, _ => .error .tooDeep
  | fuel + 1, depth, start, r =>
      match r.kind with
      | .blockEntry => do
          let ends (k : TokenKind) : Bool := k = .blockEntry || k = .blockEnd
          let (n, r) ← nodeUnless fuel depth .block ends r.token.finish r.next
          let (ns, r) ← blockItems fuel depth start r
          return (n :: ns, r)
      | .blockEnd => .ok ([], r.next)
      | _ =>
          .error (r.unexpected "while parsing a block collection" start
            "expected <block end>, but found ")

/-- Reads the entries of a sequence that is not indented. -/
def flatItems : Nat → Nat → Rest → Except Error (List Node × Rest)
  | 0, _, _ => .error .tooDeep
  | fuel + 1, depth, r =>
      match r.kind with
      | .blockEntry => do
          let ends (k : TokenKind) : Bool :=
            k = .blockEntry || k = .key || k = .value || k = .blockEnd
          let (n, r) ← nodeUnless fuel depth .block ends r.token.finish r.next
          let (ns, r) ← flatItems fuel depth r
          return (n :: ns, r)
      | .broken e => .error e
      | _ => .ok ([], r)

def blockEntries : Nat → Nat → Place → Rest → Except Error (List (Node × Node) × Rest)
  | 0, _, _, _ => .error .tooDeep
  | fuel + 1, depth, start, r =>
      match r.kind with
      | .key => do
          let ends (k : TokenKind) : Bool := k = .key || k = .value || k = .blockEnd
          let (k, r) ← nodeUnless fuel depth .entry ends r.token.finish r.next
          let (v, r) ← valueOf fuel depth .entry ends r
          let (es, r) ← blockEntries fuel depth start r
          return ((k, v) :: es, r)
      | .blockEnd => .ok ([], r.next)
      | _ =>
          .error (r.unexpected "while parsing a block mapping" start
            "expected <block end>, but found ")

/-- Reads the entries of a sequence in brackets; a pair among them is a mapping of its own. -/
def flowItems : Nat → Nat → Place → Bool → Rest → Except Error (List Node × Rest)
  | 0, _, _, _, _ => .error .tooDeep
  | fuel + 1, depth, start, isFirst, r => do
      if r.kind = .flowSequenceEnd then return ([], r.next)
      if !isFirst && r.kind ≠ .flowEntry then
        throw (r.unexpected "while parsing a flow sequence" start "expected ',' or ']', but got ")
      let r := if isFirst then r else r.next
      match r.kind with
      | .flowSequenceEnd => return ([], r.next)
      | .key =>
          if depthLimit ≤ depth then throw .tooDeep
          let place := r.place
          let ends (k : TokenKind) : Bool := k = .flowEntry || k = .flowSequenceEnd
          let (k, r) ← nodeUnless fuel (depth + 1) .flow (fun k => k = .value || ends k)
            r.token.finish r.next
          let (v, r) ← valueOf fuel (depth + 1) .flow ends r
          let (ns, r) ← flowItems fuel depth start false r
          return (.mapping .mapping [(k, v)] place :: ns, r)
      | _ =>
          let (n, r) ← node fuel depth .flow r
          let (ns, r) ← flowItems fuel depth start false r
          return (n :: ns, r)

/-- Reads the entries of a mapping in brackets; the value of a key may be left out. -/
def flowEntries : Nat → Nat → Place → Bool → Rest → Except Error (List (Node × Node) × Rest)
  | 0, _, _, _, _ => .error .tooDeep
  | fuel + 1, depth, start, isFirst, r => do
      if r.kind = .flowMappingEnd then return ([], r.next)
      if !isFirst && r.kind ≠ .flowEntry then
        throw (r.unexpected "while parsing a flow mapping" start
          "expected ',' or '\x7d', but got ")
      let r := if isFirst then r else r.next
      match r.kind with
      | .flowMappingEnd => return ([], r.next)
      | .key =>
          let ends (k : TokenKind) : Bool := k = .flowEntry || k = .flowMappingEnd
          let (k, r) ← nodeUnless fuel depth .flow (fun k => k = .value || ends k)
            r.token.finish r.next
          let (v, r) ← valueOf fuel depth .flow ends r
          let (es, r) ← flowEntries fuel depth start false r
          return ((k, v) :: es, r)
      | _ =>
          let (k, r) ← node fuel depth .flow r
          let v := emptyScalar r.place
          let (es, r) ← flowEntries fuel depth start false r
          return ((k, v) :: es, r)

end

/-! ### Documents -/

/-- The handles that need no directive. -/
def usualHandles : List (String × String) := [("!", "!"), ("!!", Tag.standard)]

def directives :
    Nat → Bool → List (String × String) → Rest → Except Error (List (String × String) × Rest)
  | 0, _, handles, r => .ok (handles, r)
  | fuel + 1, hasVersion, handles, r =>
      let wrong (problem : String) : Error := .complaint (.only problem r.place)
      match r.kind with
      | .directive (.version major) =>
          if hasVersion then .error (wrong "found duplicate YAML directive")
          else if major ≠ 1 then
            .error (wrong "found incompatible YAML document (version 1.* is required)")
          else directives fuel true handles r.next
      | .directive (.handle name lead) =>
          if handles.any (fun h => h.1 = name) then
            .error (wrong ("duplicate tag handle " ++ Text.quoted name))
          else directives fuel hasVersion ((name, lead) :: handles) r.next
      | .directive .unknown => directives fuel hasVersion handles r.next
      | _ => .ok (handles, r)

def behindEnds : Nat → Rest → Rest
  | 0, r => r
  | fuel + 1, r => if r.kind = .documentEnd then behindEnds fuel r.next else r

def endsDocument : TokenKind → Bool
  | .directive _ => true
  | .documentStart => true
  | .documentEnd => true
  | .streamEnd => true
  | _ => false

def explicitStart (r : Rest) : Except Error (Option (Place × Rest)) := do
  let fuel := r.tokens.length
  let r := behindEnds fuel r
  if r.kind = .streamEnd then return none
  let place := r.place
  let (handles, r) ← directives fuel false [] r
  if r.kind ≠ .documentStart then
    throw (r.error (.only
      ("expected \x27<document start>\x27, but found " ++ Text.quoted r.kind.name) r.place))
  return some (place, { r.next with handles := handles ++ usualHandles, anchors := [] })

def first (fuel : Nat) (r : Rest) : Except Error (Option (Node × Rest)) := do
  if endsDocument r.kind && r.kind ≠ .documentEnd then
    match ← explicitStart r with
    | none => return none
    | some (_, r) =>
        if endsDocument r.kind then return some (emptyScalar r.place, r)
        else return some (← node fuel 0 .block r)
  else return some (← node fuel 0 .block { r with handles := usualHandles })

/-- The node of a text that holds at most one document. -/
def ofTokens (tokens : List Token) : Except Error (Option Node) := do
  match ← first (3 * tokens.length + 3) { tokens } with
  | none => return none
  | some (n, r) =>
      let r := if r.kind = .documentEnd then r.next else r
      match ← explicitStart r with
      | none => return some n
      | some (place, _) =>
          throw (.complaint (.during "expected a single document in the stream" n.start
            "but found another document" place))

end Appraisal.Yaml.Document
