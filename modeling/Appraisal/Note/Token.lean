import Appraisal.Number.Numeral
import Appraisal.Text.Lowercase

/-!
# Tokens in notes

A note is free text in which values follow labels, as in `live Int:12 Per:M Target:3yr`. The token
of a label runs from the end of its first occurrence to the next blank. A missing or malformed token
gives a neutral value.
-/

namespace Appraisal.Note

open Text

def after? (label : List Letter) : List Letter → Option (List Letter)
  | [] => if label.isEmpty then some [] else none
  | c :: s =>
      if label.isPrefixOf (c :: s) then some ((c :: s).drop label.length) else after? label s

def tokenLetters (note label : List Letter) : List Letter :=
  if label.isEmpty then []
  else
    match after? label note with
    | some rest => word rest
    | none => []

/-- The token of a label, or the empty text. -/
def token (note label : Text) : Text :=
  .ofList (tokenLetters note.toList label.toList)

/-- A finite decimal number that takes up a whole token. -/
def finiteNumber? (s : List Char) : Option Float :=
  match (Numeral.read? s).map Numeral.toFloat with
  | some x => if x.isFinite then some x else none
  | none => none

/-- The token of a label as a number, or zero. -/
def number (note label : Text) : Float :=
  ((chars? (tokenLetters note.toList label.toList)).bind finiteNumber?).getD 0

def occursIn (part : List Letter) : List Letter → Bool
  | [] => part.isEmpty
  | c :: s => part.isPrefixOf (c :: s) || occursIn part s

def contains (note part : Text) : Bool :=
  occursIn part.toList note.toList

def closeMarkers : List Text := ["closed", "settled"]

def joined (notes : List Text) : Text := Text.intercalate " " notes

/-- Is a loan marked as closed in any of its notes? Small and capital letters do not differ here. -/
def hasCloseMarker (notes : List Text) : Bool :=
  closeMarkers.any (contains (joined notes).lowered)

end Appraisal.Note
