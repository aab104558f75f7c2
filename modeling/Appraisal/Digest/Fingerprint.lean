import Appraisal.Datum.Conversion
import Appraisal.Digest.Sha256
import Appraisal.Json.Writer

/-!
# Fingerprints and checksums

A short hash of some named inputs of a computation, so that two runs on the same inputs can be told in
a journal. The inputs are first written as one text: a mapping is written in the order of its keys,
and an input that is missing as the word null.

The checksum of a datum is the hash of its canonical text, so the order of the entries of a mapping
does not count.
-/

namespace Appraisal.Fingerprint

/-- How an input looks next to a label; members of enumerations are given by name. -/
def labelled (d : Datum) (canonical : Text) : Text :=
  match d with
  | .member kind name _ => kind ++ "." ++ name
  | _ => canonical

mutual

/-- The text of an input. There is none for a mapping whose keys have no order, and none for a whole
number with too many digits. -/
def canonical : Datum → Except Fault Text
  | .null => .ok "null"
  | .text s => .ok s
  | .member _ _ s => .ok s
  | .moment t => .ok t.text
  | .list items => (canonicalItems items).map (fun parts => "[" ++ Text.intercalate "," parts ++ "]")
  | .tuple items => (canonicalItems items).map (fun parts => "[" ++ Text.intercalate "," parts ++ "]")
  | .map entries => do
      let written := canonicalEntries entries
      let written ← (Datum.sortedEntries written).mapError .ofOrder
      let parts ← written.mapM (fun e => do
        let key ← e.1.toText
        let value ← e.2
        return (key ++ ":" ++ value : Text))
      return "\x7b" ++ Text.intercalate "," parts ++ "\x7d"
  | d => d.toText

def canonicalItems : List Datum → Except Fault (List Text)
  | [] => .ok []
  | x :: xs => do
      let s ← canonical x
      let rest ← canonicalItems xs
      return s :: rest

def canonicalEntries : List (Datum × Datum) → List (Datum × Except Fault Text)
  | [] => []
  | e :: es => canonicalEntry e :: canonicalEntries es

def canonicalEntry : Datum × Datum → Datum × Except Fault Text
  | (k, v) => (k, (canonical v).map (labelled v))

end

def text (fields : List Text) (inputs : List (Text × Datum)) : Except Fault Text := do
  let parts ← fields.mapM (fun f => do
    let input := ((inputs.find? (fun i => i.1 = f)).map Prod.snd).getD .null
    let s ← canonical input
    return f ++ "=" ++ labelled input s)
  return Text.intercalate "|" parts

def length : Nat := 16

/-- The first sixteen digits of the hash. -/
def ofInputs (fields : List Text) (inputs : List (Text × Datum)) : Except Fault String := do
  let t ← text fields inputs
  match t.string? with
  | some s => return String.ofList ((Sha256.hexDigest s).toList.take length)
  | none => throw (.refusal (.unencodable t))

end Appraisal.Fingerprint

namespace Appraisal.Checksum

def ofDatum (d : Datum) : Except Json.WriteError String :=
  (Json.canonical d).map Sha256.hexDigest

end Appraisal.Checksum
