import Appraisal.Ledger.Posting
import Appraisal.Text.Wildcard

/-!
# Account patterns

An account pattern is the name of an account in which a star stands for any run of characters. Storage
knows only a coarser filter, in which a percent sign stands for any run, an underscore for any one
letter and the case of ASCII letters is ignored. The filter of a pattern keeps its text up to the first
star, so it lets every matching account through.
-/

namespace Appraisal

open Text

namespace AccountPattern

def star : Letter := '*'

def symbol (l : Letter) : Wildcard Letter := if l = star then .anyRun else .exactly l

def accepts (pattern account : Text) : Bool :=
  Wildcard.matchesAll (· == ·) (pattern.toList.map symbol) account.toList

def filter (pattern : Text) (ps : List Posting) : List Posting :=
  ps.filter (fun p => accepts pattern p.account)

/-- The text of the coarse filter: what stands before the first star, then any run. -/
def coarse (pattern : Text) : Text :=
  if pattern.toList.contains star then .ofList (pattern.toList.takeWhile (· != star)) ++ "%"
  else pattern

end AccountPattern

namespace CoarseFilter

def symbol (l : Letter) : Wildcard Letter :=
  if l = '%' then .anyRun else if l = '_' then .anyOne else .exactly l

/-- What storage sees of a letter. It takes the last two code points of the first plane, which are no
characters, for the replacement character. -/
def seen (l : Letter) : Letter :=
  if l.code = 0xFFFE ∨ l.code = 0xFFFF then .char '\uFFFD' else l.mapChar Char.toLower

def sameLetter (l m : Letter) : Bool := seen l == seen m

/-- What storage compares of a text: it ends at the first NUL. -/
def visible (t : Text) : List Letter := t.toList.takeWhile (· != .char '\x00')

def accepts (filter account : Text) : Bool :=
  Wildcard.matchesAll sameLetter ((visible filter).map symbol) (visible account)

end CoarseFilter

end Appraisal
