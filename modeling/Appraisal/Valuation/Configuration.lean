import Appraisal.Digest.Fingerprint
import Appraisal.Ledger.AccountPattern
import Appraisal.Note.Token

/-!
# Configurations

The rules of valuation together with the currency of the ledger. A rule says by which formula the
postings of some accounts are valued. It names the accounts by a pattern and can ask for a text in
the note of the transaction. The first rule that applies counts. The checksum of a configuration
depends on the rules and the currency only; where it was read from does not count.
-/

namespace Appraisal

structure Rule where
  name : Text
  /-- The pattern of the accounts. -/
  account : Text
  formula : Text
  /-- What the note must contain; the empty text asks for nothing. -/
  noteContains : Text
  deriving DecidableEq, Repr

namespace Rule

def datum (r : Rule) : Datum :=
  let asked : List (Text × Datum) :=
    if r.noteContains = "" then [] else [("note_contains", .text r.noteContains)]
  .object
    (("name", .text r.name) :: ("account", .text r.account) :: ("formula", .text r.formula) :: asked)

/-- Does a rule value a posting? A rule without a pattern values none. -/
def applies (r : Rule) (p : Posting) : Bool :=
  r.account != "" && AccountPattern.accepts r.account p.account &&
    (r.noteContains == "" || Note.contains p.transactionNote r.noteContains)

def first? (rules : List Rule) (p : Posting) : Option Rule :=
  rules.find? (fun r => r.applies p)

end Rule

structure Configuration where
  currency : Text
  rules : List Rule
  /-- Where the configuration was read from. -/
  source : Text
  deriving DecidableEq, Repr

namespace Configuration

def defaultCurrency : Text := "INR"

def empty : Configuration := ⟨defaultCurrency, [], ""⟩

def datum (c : Configuration) : Datum :=
  .object [("default_currency", .text c.currency), ("rules", .list (c.rules.map Rule.datum))]

def canonicalText (c : Configuration) : String :=
  match Json.canonical c.datum with
  | .ok s => s
  | .error _ => ""

def checksum (c : Configuration) : String := Sha256.hexDigest c.canonicalText

end Configuration

end Appraisal
