import Appraisal.Formula.Compilation
import Appraisal.Valuation.Configuration

/-!
# Validating a configuration

Every formula of a configuration is compiled and run on sample values before the configuration is
used. Errors make a configuration unusable; warnings point out names that are used more than once and
rules that can never be the first to apply.
-/

namespace Appraisal

structure Validation where
  errors : List Text
  warnings : List Text

namespace Validation

def isValid (v : Validation) : Bool := v.errors.isEmpty

def label (number : Nat) (r : Rule) : String :=
  "rule " ++ intText number ++ if r.name = "" then "" else " (" ++ Text.quoted r.name ++ ")"

def shapeErrors (number : Nat) (r : Rule) : List Text :=
  let say (what : String) : Text := label number r ++ ": " ++ what ++ " must not be empty"
  (if r.name = "" then [say "name"] else []) ++
    (if r.account = "" then [say "account pattern"] else []) ++
    if r.formula = "" then [say "formula"] else []

def formulaErrors (number : Nat) (r : Rule) (sample : Formula.Context) :
    Journaled Fault (List Text) := do
  if r.formula = "" then return []
  else
    let verdict ← Formula.checked (.text r.formula) sample.lookup?
    return if verdict.ok then [] else [label number r ++ ": " ++ verdict.text]

def ruleErrors (sample : Formula.Context) : Nat → List Rule → Journaled Fault (List Text)
  | _, [] => return []
  | number, r :: rs => do
      let errors ← formulaErrors number r sample
      let rest ← ruleErrors sample (number + 1) rs
      return shapeErrors number r ++ errors ++ rest

/-- Counts the keys of a list, in the order in which they first occur. -/
def counts {κ : Type} [DecidableEq κ] (ks : List κ) : List (κ × Nat) :=
  ks.eraseDups.map (fun k => (k, ks.count k))

def repeated {κ : Type} [DecidableEq κ] (before : κ → κ → Bool) (ks : List κ) : List (κ × Nat) :=
  sorted (fun a b => before a.1 b.1) ((counts ks).filter (fun e => 1 < e.2))

def nameWarnings (rules : List Rule) : List Text :=
  let names := (rules.map Rule.name).filter (!·.isEmpty)
  (repeated Text.before names).map (fun e =>
    "rule name " ++ Text.quoted e.1 ++ " is used " ++ intText e.2 ++ " times")

def selectorBefore (a b : Text × Text) : Bool :=
  a.1.before b.1 || (a.1 == b.1 && a.2.before b.2)

/-- Rules with one pattern and one text asked of the note: only the first ever applies. -/
def shadowWarnings (rules : List Rule) : List Text :=
  let selectors := (rules.filter (!·.account.isEmpty)).map (fun r => (r.account, r.noteContains))
  (repeated selectorBefore selectors).map (fun e =>
    "account pattern " ++ Text.quoted e.1.1 ++ " (note filter " ++ Text.quoted e.1.2 ++
      ") appears in " ++ intText e.2 ++ " rules; only the first one is ever applied")

def currencyErrors (c : Configuration) : List Text :=
  if c.currency = "" then ["default_currency must not be empty"] else []

/-- Validates a configuration. Formulas are tried on the usual sample values. -/
def ofConfiguration (c : Configuration) : Journaled Fault Validation := do
  let sample ← Journaled.lift (Formula.Context.ofSample {})
  let errors ← ruleErrors sample 1 c.rules
  return ⟨currencyErrors c ++ errors, nameWarnings c.rules ++ shadowWarnings c.rules⟩

end Validation

end Appraisal
