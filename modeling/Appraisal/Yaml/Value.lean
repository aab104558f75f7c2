import Appraisal.Datum.Conversion
import Appraisal.Valuation.Document
import Appraisal.Yaml.Document
import Appraisal.Yaml.Node
import Appraisal.Yaml.Scalar

/-!
# The values of nodes

A node becomes a datum by its tag. A mapping can take over the entries of others; its own entries come
behind them and win. Of several errors the one that is nested least deeply counts, and the first of
those. The datum of a text is that of its one document. Configurations take any reader of documents;
this is the one that the program runs with.
-/

namespace Appraisal.Yaml

/-! ### Scalars -/

namespace Scalar

def small (s : List Letter) : List Letter := s.map (Letter.mapChar Char.toLower)

def truth (t : Text) : Except Error Bool :=
  let word := Text.ofList (small t.toList)
  match truthWords.find? (fun w => w.1 = word) with
  | some (_, b) => .ok b
  | none => .error (.unknownTruth word)

/-- Does a number have the minus sign, and its text without sign and underscores, which has to have
letters. -/
def unsigned (t : Text) : Except Error (Bool × List Letter) :=
  match t.toList.filter (· != .char '_') with
  | [] => .error .emptyNumber
  | .char '-' :: s => .ok (true, s)
  | .char '+' :: s => .ok (false, s)
  | s => .ok (false, s)

def inBase (base : Nat) (mark : Char) (s : List Letter) : Except Error Int :=
  let cs := (Text.chars? s).getD []
  let (negative, ds) := Numeral.spanSign (Text.trimmedOf Text.isMargin cs)
  let ds :=
    match ds with
    | '0' :: m :: rest => if m.toLower = mark then rest else ds
    | ds => ds
  let values := ds.map (fun c => ((Text.hexValue? c).filter (· < base)))
  if ds.isEmpty || values.any Option.isNone then
    .error (.refused (.stated .value ("invalid literal for int() with base " ++ intText base ++
      ": " ++ Text.quoted (.ofList s))))
  else
    let n : Int := (values.reduceOption.foldl (fun n d => base * n + d) 0 : Nat)
    .ok (if negative then -n else n)

def parts (s : List Letter) : List Text := (Text.ofList s).parts ':'

def refused {α : Type} (x : Except Refusal α) : Except Error α := x.mapError .refused

def sexagesimal (zero : Quantity) (parts : List Quantity) : Except Error Quantity :=
  let step (acc : Quantity × Int) (part : Quantity) : Except QuantityError (Quantity × Int) := do
    let sum ← acc.1.add (← part.mul (.whole acc.2))
    return (sum, acc.2 * 60)
  match parts.reverse.foldlM step (zero, 1) with
  | .ok (sum, _) => .ok sum
  | .error e => .error (.refused (.quantity e))

def whole (t : Text) : Except Error Quantity := do
  let (negative, s) ← unsigned t
  let n ←
    match s with
    | [] => throw .emptyNumber
    | [.char '0'] => pure (.whole 0)
    | .char '0' :: .char 'b' :: rest => (inBase 2 'b' rest).map .whole
    | .char '0' :: .char 'x' :: rest => (inBase 16 'x' rest).map .whole
    | .char '0' :: _ => (inBase 8 'o' s).map .whole
    | _ =>
        if s.contains (.char ':') then do
          let ns ← (parts s).mapM (fun p => (refused (Datum.wholeOfText p)).map Quantity.whole)
          sexagesimal (.whole 0) ns
        else (refused (Datum.wholeOfText (.ofList s))).map .whole
  return if negative then n.negate else n

def readDouble (t : Text) : Except Error Quantity :=
  match readFloat? t with
  | some x => .ok (.double x)
  | none => .error (.refused (.notNumeric t))

def double (t : Text) : Except Error Quantity := do
  let (negative, s) ← unsigned t
  let number := Text.ofList (small s)
  if number = ".nan" then return .double (Binary.toFloat .nan)
  let x ←
    if number = ".inf" then pure (.double (Binary.toFloat (.infinite false)))
    else if number.toList.contains (.char ':') then do
      sexagesimal (.double 0) (← (parts number.toList).mapM readDouble)
    else readDouble number
  return if negative then x.negate else x

def time (t : Text) : Except Error Datum :=
  let refused {α : Type} (x : Except CalendarError α) : Except Error α :=
    x.mapError (fun e => .refused (.calendar e))
  match (Text.chars? t.toList).bind (fun cs => stamp? (line cs)) with
  | none => .error .noTime
  | some ⟨civil, _, none⟩ => (refused civil.date).map .date
  | some ⟨civil, _, some (time, offset)⟩ =>
      (refused (Moment.ofParts civil time offset)).map .moment

/-- How texts with a tag are read, if texts can have the tag. -/
def reader? : Tag → Option (Text → Except Error Datum)
  | .null => some (fun _ => .ok .null)
  | .truth => some (fun s => (truth s).map .truth)
  | .whole => some (fun s => (whole s).map .ofQuantity)
  | .double => some (fun s => (double s).map .ofQuantity)
  | .time => some time
  | .text => some (fun s => .ok (.text s))
  | _ => none

end Scalar

/-! ### Nodes -/

namespace Node

/-- An error and how deeply what it is about is nested. -/
structure Failure where
  depth : Nat
  error : Error

abbrev Outcome := Except Failure Datum

def failed {α : Type} (depth : Nat) (c : Complaint) : Except Failure α :=
  .error ⟨depth, .complaint c⟩

def foremost (fs : List Failure) : Option Failure :=
  fs.foldl (fun best f =>
    match best with
    | some b => if f.depth < b.depth then some f else some b
    | none => some f) none

def failure? {α : Type} : Except Failure α → Option Failure
  | .ok _ => none
  | .error f => some f

def combined {α : Type} (xs : List (Except Failure α)) : Except Failure (List α) :=
  match foremost (xs.filterMap failure?) with
  | some f => .error f
  | none => .ok (xs.filterMap Except.toOption)

/-- The text that a node stands for where a scalar is meant: its own, or that of the entry of a mapping
that stands for the whole of it. -/
def text? : Node → Except Complaint Text
  | scalar _ s _ => .ok s
  | mapping _ entries p => entryText? entries p
  | sequence _ _ p => .error (.only "expected a scalar node, but found sequence" p)
where
  entryText? : List (Node × Node) → Place → Except Complaint Text
    | [], p => .error (.only "expected a scalar node, but found mapping" p)
    | (k, v) :: es, p => if k.tag = .value then text? v else entryText? es p

structure Entry where
  place : Place
  key : Outcome
  value : Outcome

/-- The entries that a mapping takes over and its own, and what is wrong with taking over. -/
structure Entries where
  wrong : Option (String × Place) := none
  taken : List Entry := []
  own : List Entry := []

def Entries.all (es : Entries) : List Entry := es.taken ++ es.own

def Entries.append (a b : Entries) : Entries :=
  ⟨a.wrong <|> b.wrong, a.taken ++ b.taken, a.own ++ b.own⟩

/-- The entries of a list of mappings, of which the last comes first. -/
def Entries.behind (a b : Entries) : Entries :=
  ⟨a.wrong <|> b.wrong, b.taken ++ a.taken, []⟩

def isHashable : Datum → Bool
  | .list _ => false
  | .map _ => false
  | _ => true

def context : String := "while constructing a mapping"

def Entry.pair (start : Place) (depth : Nat) (e : Entry) : Except Failure (Datum × Datum) := do
  let key : Outcome :=
    match e.key with
    | .ok k =>
        if isHashable k then .ok k
        else failed depth (.during context start "found unhashable key" e.place)
    | .error f => .error f
  match foremost ([key, e.value].filterMap failure?) with
  | some f => throw f
  | none => return (← key, ← e.value)

def Entries.pairs (start : Place) (depth : Nat) (es : Entries) :
    Except Failure (List (Datum × Datum)) :=
  match es.wrong with
  | some (problem, place) => failed depth (.during context start problem place)
  | none => combined (es.all.map (Entry.pair start depth))

def onlyPair (what : String) (start place : Place) (depth : Nat) (count : Nat)
    (pairs : List (Outcome × Outcome)) : Outcome :=
  match pairs with
  | [(k, v)] =>
      match foremost ([k, v].filterMap failure?) with
      | some f => .error f
      | none => return .tuple [← k, ← v]
  | _ =>
      failed depth (.during ("while constructing " ++ what) start
        ("expected a single mapping item, but found " ++ intText count ++ " items") place)

def unknownTag (tag : Tag) (place : Place) (depth : Nat) : Outcome :=
  failed depth (.only
    ("could not determine a constructor for the tag " ++ Text.quoted tag.toText) place)

def scalarDatum (n : Node) (tag : Tag) (depth : Nat) : Outcome :=
  match Scalar.reader? tag with
  | none => unknownTag tag n.start depth
  | some read =>
      match text? n with
      | .ok s => (read s).mapError (fun e => ⟨depth, e⟩)
      | .error c => failed depth c

def pairsName? : Tag → Option String
  | .orderedMapping => some "an ordered map"
  | .pairs => some "pairs"
  | _ => none

def otherDatum (n : Node) (depth : Nat) : Outcome :=
  match n.tag, pairsName? n.tag with
  | _, some what =>
      failed (depth + 1) (.during ("while constructing " ++ what) n.start
        ("expected a sequence, but found " ++ n.kindName) n.start)
  | .sequence, none =>
      failed (depth + 1) (.only ("expected a sequence node, but found " ++ n.kindName) n.start)
  | .mapping, none =>
      failed (depth + 1) (.only ("expected a mapping node, but found " ++ n.kindName) n.start)
  | tag, none => scalarDatum n tag depth

mutual

def datum (depth : Nat) : Node → Outcome
  | scalar tag s p => otherDatum (.scalar tag s p) depth
  | sequence tag items p =>
      match pairsName? tag with
      | some what => (combined (pairItems what p (depth + 1) items)).map .list
      | none =>
          if tag = .sequence then (combined (data (depth + 1) items)).map .list
          else otherDatum (.sequence tag items p) depth
  | mapping tag es p =>
      if tag = .mapping then ((entries (depth + 1) es).pairs p (depth + 1)).map Datum.ofPairs
      else otherDatum (.mapping tag es p) depth

def data (depth : Nat) : List Node → List Outcome
  | [] => []
  | n :: ns => datum depth n :: data depth ns

/-- The entries of a mapping, those taken over first. Of several mappings in a list the last comes
first. -/
def entries (depth : Nat) : List (Node × Node) → Entries
  | [] => {}
  | e :: es => (entry depth e).append (entries depth es)

def entry (depth : Nat) : Node × Node → Entries
  | (k, v) =>
      if k.tag = .merge then taken depth v
      else
        let key := if k.tag = .value then scalarDatum k .text depth else datum depth k
        { own := [⟨k.start, key, datum depth v⟩] }

def taken (depth : Nat) : Node → Entries
  | mapping _ es _ =>
      let inner := entries depth es
      { wrong := inner.wrong, taken := inner.all }
  | sequence _ items _ => takenItems depth items
  | n =>
      { wrong := some ("expected a mapping or list of mappings for merging, but found " ++
          n.kindName, n.start) }

def takenItems (depth : Nat) : List Node → Entries
  | [] => {}
  | n :: ns => (takenItem depth n).behind (takenItems depth ns)

def takenItem (depth : Nat) : Node → Entries
  | mapping _ es _ =>
      let inner := entries depth es
      { wrong := inner.wrong, taken := inner.all }
  | n => { wrong := some ("expected a mapping for merging, but found " ++ n.kindName, n.start) }

def pairItems (what : String) (start : Place) (depth : Nat) : List Node → List Outcome
  | [] => []
  | n :: ns => pairItem what start depth n :: pairItems what start depth ns

def pairItem (what : String) (start : Place) (depth : Nat) : Node → Outcome
  | mapping _ es p => onlyPair what start p depth es.length (pairData depth es)
  | n =>
      failed depth (.during ("while constructing " ++ what) start
        ("expected a mapping of length 1, but found " ++ n.kindName) n.start)

def pairData (depth : Nat) : List (Node × Node) → List (Outcome × Outcome)
  | [] => []
  | e :: es => pairDatum depth e :: pairData depth es

def pairDatum (depth : Nat) : Node × Node → Outcome × Outcome
  | (k, v) => (datum depth k, datum depth v)

end

end Node

/-! ### Reading -/

/-- The datum of a text; a text without a document stands for nothing. -/
def read (text : String) : Except Error Datum := do
  match ← Document.ofTokens (tokens text) with
  | none => return .null
  | some n => (n.datum 0).mapError Node.Failure.error

def reader : DocumentReader := fun source text =>
  (read text).mapError (fun e => ⟨e.report, e.message source⟩)

end Appraisal.Yaml
