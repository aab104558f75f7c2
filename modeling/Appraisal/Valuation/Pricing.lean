import Appraisal.Formula.Compilation
import Appraisal.Valuation.Configuration

/-!
# Pricing

A posting is worth what the formula of its first rule gives. Without a rule, or when the formula
fails, it is worth its amount; a failure is recorded and never passed on.
-/

namespace Appraisal.Pricing

open Journaled

def logger : String := "services.valuation"

def evaluate (r : Rule) (p : Posting) (instant : Moment) : Journaled Fault Decimal := do
  let program ← Formula.compiled (.text r.formula)
  let context ← lift (Formula.Context.ofPosting p instant)
  let x ← lift (program.runNumeric context.lookup?)
  return Formula.toMoney x

def recordFailure (r : Rule) (p : Posting) (e : Formula.FormulaError) : Journaled Fault Unit :=
  bound [(.rule, some (.text r.name)), (.account, some (.text p.account))]
    (note Journal.warningLevel logger "valuation_formula_failed"
      [("formula", .text r.formula), ("posting_date", .date p.date),
       ("fallback_amount", .decimal p.amount), ("error_code", .text e.code),
       ("error", .text e.message)])

def marketValue (rules : List Rule) (p : Posting) (instant : Moment) :
    Journaled Fault (Decimal × Bool) := do
  match Rule.first? rules p with
  | none => return (p.amount, false)
  | some r =>
      match ← outcome (δ := Fault) (evaluate r p instant) with
      | .ok value => return (value, true)
      | .error (.formula e) => do
          recordFailure r p e
          return (p.amount, true)
      | .error e => throw e

structure RuleVerdict where
  rule : Rule
  verdict : Formula.Verdict

namespace RuleVerdict

def datum (v : RuleVerdict) : Datum :=
  .object
    [("name", .text v.rule.name), ("account", .text v.rule.account),
     ("formula", .text v.rule.formula), ("valid", .truth v.verdict.ok),
     ("error", .text v.verdict.text)]

end RuleVerdict

def checkFormula (currency : Text) (source : Datum) : Journaled Fault Formula.Verdict := do
  let sample ← lift (Formula.Context.ofSample { commodity := currency })
  Formula.checked source sample.lookup?

def checkRule (currency : Text) (r : Rule) : Journaled Fault RuleVerdict := do
  let verdict ← checkFormula currency (.text r.formula)
  return ⟨r, verdict⟩

def checkRules (currency : Text) (rules : List Rule) : Journaled Fault (List RuleVerdict) := do
  let verdicts ← rules.mapM (checkRule currency)
  note Journal.infoLevel logger "valuation_rules_validated"
    [("rule_count", .whole verdicts.length),
     ("invalid_count", .whole (verdicts.filter (fun v => !v.verdict.ok)).length)]
  return verdicts

def checkPayload (verdicts : List RuleVerdict) : Datum :=
  .object
    [("valid", .truth (verdicts.all (fun v => v.verdict.ok))),
     ("results", .list (verdicts.map RuleVerdict.datum))]

end Appraisal.Pricing
