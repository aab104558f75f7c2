import Appraisal.Datum.Display
import Appraisal.Datum.Equality

/-!
# Plain data

Data as JSON knows them: members of enumerations become their values, decimals and dates become
texts, and the keys of mappings become texts. Of two keys with one text the later value counts.
-/

namespace Appraisal.Json

mutual

def plain : Datum → Datum
  | .member _ _ value => .text value
  | .decimal d => .text d.text
  | .date d => .text d.text
  | .moment t => .text t.text
  | .list items => .list (plainItems items)
  | .tuple items => .list (plainItems items)
  | .map entries => Datum.ofPairs (plainEntries entries)
  | d => d

def plainItems : List Datum → List Datum
  | [] => []
  | x :: xs => plain x :: plainItems xs

def plainEntries : List (Datum × Datum) → List (Datum × Datum)
  | [] => []
  | e :: es => plainEntry e :: plainEntries es

def plainEntry : Datum × Datum → Datum × Datum
  | (k, v) => (.text (plain k).display, plain v)

end

end Appraisal.Json
