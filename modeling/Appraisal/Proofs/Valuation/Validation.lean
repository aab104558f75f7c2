import Appraisal.Proofs.Formula.Variables
import Appraisal.Proofs.Valuation.MarketValue
import Appraisal.Valuation.Validation

/-!
# Verdicts and validations

A formula tried on sample values always gets a verdict, and always the same one. So a configuration
can always be validated: what is said of its formulas are the verdicts on them, rule by rule. The
sample values of a validation are in the usual currency, those of a service of valuations in its own;
the verdicts are the same unless a formula reads the currency.
-/

namespace Appraisal

open Outcome Journaled

namespace Formula

def trial (source : Text) (e : Environment) : Except Fault Float :=
  (compile source postingSchema Library.registry defaultNodeLimit).mapError .formula >>=
    fun p => p.runNumeric e

theorem yields_tried (source : Text) (e : Environment) :
    Yields (tried (.text source) e) (trial source e) := by
  obtain ⟨w, hw, -⟩ := Pricing.quiet_compiled source
  exact hw.yields.bind (fun p _ => yields_lift (p.runNumeric e))

theorem yields_checked (source : Text) (e : Environment) :
    Yields (checked (.text source) e) (verdictOn (trial source e)) := by
  refine (yields_tried source e).outcome.bind (g := fun r => verdictOn r) (fun r _ => ?_)
  exact yields_lift (verdictOn r)

/-- A trial fails with errors of the formula only. -/
theorem sound_trial (source : Text) (c : Context) :
    Sound (fun f => ∃ e, f = .formula e) (fun x => x.isFinite = true) (trial source c.lookup?) := by
  unfold trial
  cases hp : compile source postingSchema Library.registry defaultNodeLimit with
  | error e => exact ⟨e, rfl⟩
  | ok p => exact sound_runNumeric hp c

/-- The verdict on a formula in an environment. -/
def Judged (source : Text) (e : Environment) (v : Verdict) : Prop :=
  Yields (checked (.text source) e) (.ok v)

theorem judged_iff {source : Text} {e : Environment} {v : Verdict} :
    Judged source e v ↔ verdictOn (trial source e) = .ok v := by
  constructor
  · intro h
    exact (yields_checked source e).unique h
  · intro h
    unfold Judged
    rw [← h]
    exact yields_checked source e

theorem exists_judged (source : Text) (c : Context) : ∃ v, Judged source c.lookup? v := by
  have hsound := sound_trial source c
  cases htrial : trial source c.lookup? with
  | ok x => exact ⟨.good, judged_iff.2 (by rw [htrial]; rfl)⟩
  | error f =>
      rw [htrial] at hsound
      obtain ⟨e, rfl⟩ := hsound
      exact ⟨.bad e, judged_iff.2 (by rw [htrial]; rfl)⟩

/-- A formula is good when its trial gives a number. -/
theorem Judged.ok_iff {source : Text} {e : Environment} {v : Verdict} (h : Judged source e v) :
    v.ok = true ↔ ∃ x, trial source e = .ok x := by
  rw [judged_iff] at h
  cases htrial : trial source e with
  | ok x =>
      rw [htrial] at h
      obtain rfl := Except.ok.inj h
      exact ⟨fun _ => ⟨x, rfl⟩, fun _ => rfl⟩
  | error f =>
      rw [htrial] at h
      cases f with
      | formula e =>
          obtain rfl := Except.ok.inj h
          simp [Verdict.bad]
      | _ => cases h

/-- Does a formula compile to a program in which a variable stands? -/
def Reads (source name : Text) : Prop :=
  ∃ p, compile source postingSchema Library.registry defaultNodeLimit = .ok p ∧
    name ∈ p.root.variableNames

theorem trial_congr {source : Text} {e e' : Environment}
    (h : ∀ name, Reads source name → e name = e' name) : trial source e = trial source e' := by
  unfold trial
  cases hp : compile source postingSchema Library.registry defaultNodeLimit with
  | error _ => rfl
  | ok p => exact p.runNumeric_congr (fun name hname => h name ⟨p, hp, hname⟩) defaultStepLimit

/-- The verdict does not depend on variables that the formula does not read. -/
theorem judged_congr {source : Text} {e e' : Environment} {v : Verdict}
    (h : ∀ name, Reads source name → e name = e' name) :
    Judged source e v ↔ Judged source e' v := by
  rw [judged_iff, judged_iff, trial_congr h]

def sampleIn (currency : Text) : Context :=
  .make 10000 1 .newYear2024 30 "sample note Int:12 Per:M" "Assets:Test" currency

theorem ofSample_commodity (currency : Text) :
    Context.ofSample { commodity := currency } = .ok (sampleIn currency) := rfl

theorem lookup?_sampleIn {name : Text} (h : name ≠ "commodity") (currency currency' : Text) :
    (sampleIn currency).lookup? name = (sampleIn currency').lookup? name := by
  have hname : (name == "commodity") = false := beq_eq_false_iff_ne.2 h
  simp only [Context.lookup?, Context.values, sampleIn, Context.make, List.lookup, hname]

end Formula

/-! ### Validating a configuration -/

namespace Validation

def formulaLines (number : Nat) (r : Rule) (v : Formula.Verdict) : List Text :=
  if v.ok then [] else [label number r ++ ": " ++ v.text]

theorem formulaLines_ne_nil_iff {number : Nat} {r : Rule} {v : Formula.Verdict} :
    formulaLines number r v ≠ [] ↔ v.ok = false := by
  unfold formulaLines
  cases v.ok <;> simp

theorem exists_formulaErrors (number : Nat) (r : Rule) (sample : Formula.Context) :
    ∃ errors, Yields (formulaErrors number r sample) (.ok errors) ∧
      (r.formula ≠ "" → ∃ v, Formula.Judged r.formula sample.lookup? v ∧
        errors = formulaLines number r v) := by
  unfold formulaErrors
  by_cases hformula : r.formula = ""
  · rw [if_pos hformula]
    exact ⟨[], yields_pure [], fun hne => absurd hformula hne⟩
  · obtain ⟨v, hv⟩ := Formula.exists_judged r.formula sample
    rw [if_neg hformula]
    refine ⟨formulaLines number r v, ?_, fun _ => ⟨v, hv, rfl⟩⟩
    refine hv.bind (g := fun _ => .ok (formulaLines number r v)) (fun v' hv' => ?_)
    obtain rfl := Except.ok.inj hv'
    exact yields_pure _

/-- The lines on rules that are counted from a number: what is said of the shape of each, and then
what has been found of its formula. -/
def ruleLines (number : Nat) (rules : List Rule) (found : List (List Text)) : List Text :=
  ((rules.zipIdx number).zipWith (fun r errors => shapeErrors r.2 r.1 ++ errors) found).flatten

theorem exists_ruleErrors (sample : Formula.Context) (number : Nat) (rules : List Rule) :
    ∃ found, Yields (ruleErrors sample number rules) (.ok (ruleLines number rules found)) ∧
      List.Forall₂ (fun r errors => Yields (formulaErrors r.2 r.1 sample) (.ok errors))
        (rules.zipIdx number) found := by
  induction rules generalizing number with
  | nil => exact ⟨[], yields_pure [], .nil⟩
  | cons r rules ih =>
      obtain ⟨errors, herrors, -⟩ := exists_formulaErrors number r sample
      obtain ⟨found, hrest, hall⟩ := ih (number + 1)
      refine ⟨errors :: found, ?_, .cons herrors hall⟩
      let lines := ruleLines number (r :: rules) (errors :: found)
      refine herrors.bind (g := fun _ => .ok lines) (fun errors' h' => ?_)
      obtain rfl := Except.ok.inj h'
      refine hrest.bind (g := fun _ => .ok lines) (fun rest h' => ?_)
      obtain rfl := Except.ok.inj h'
      exact yields_pure lines

/-- Every configuration can be validated. Its errors are those of its currency and the lines on its
rules. -/
theorem exists_ofConfiguration (c : Configuration) :
    ∃ v found, Yields (ofConfiguration c) (.ok v) ∧
      v.errors = currencyErrors c ++ ruleLines 1 c.rules found ∧
      List.Forall₂ (fun r errors =>
          Yields (formulaErrors r.2 r.1 (Formula.sampleIn Configuration.defaultCurrency))
            (.ok errors)) (c.rules.zipIdx 1) found := by
  obtain ⟨found, hrules, hall⟩ :=
    exists_ruleErrors (Formula.sampleIn Configuration.defaultCurrency) 1 c.rules
  let v : Validation := ⟨currencyErrors c ++ ruleLines 1 c.rules found,
    nameWarnings c.rules ++ shadowWarnings c.rules⟩
  refine ⟨v, found, ?_, rfl, hall⟩
  refine (yields_lift _).bind (g := fun _ => .ok v) (fun sample hsample => ?_)
  obtain rfl := Except.ok.inj ((Formula.ofSample_commodity "INR").symm.trans hsample)
  refine hrules.bind (g := fun _ => .ok v) (fun errors herrors => ?_)
  obtain rfl := Except.ok.inj herrors
  exact yields_pure v

end Validation

/-! ### Checking the rules of a service -/

namespace Pricing

theorem exists_checkRule (currency : Text) (r : Rule) :
    ∃ v, Formula.Judged r.formula (Formula.sampleIn currency).lookup? v ∧
      Yields (checkRule currency r) (.ok ⟨r, v⟩) := by
  obtain ⟨v, hv⟩ := Formula.exists_judged r.formula (Formula.sampleIn currency)
  have hcheck : Yields (checkFormula currency (.text r.formula)) (.ok v) := by
    refine (yields_lift _).bind (g := fun _ => .ok v) (fun sample hsample => ?_)
    obtain rfl := Except.ok.inj ((Formula.ofSample_commodity currency).symm.trans hsample)
    exact hv
  let verdict : RuleVerdict := ⟨r, v⟩
  refine ⟨v, hv, hcheck.bind (g := fun _ => .ok verdict) (fun v' hv' => ?_)⟩
  obtain rfl := Except.ok.inj hv'
  exact yields_pure verdict

/-- All rules are checked, and each gets the verdict on its formula. -/
theorem exists_checkRules (currency : Text) (rules : List Rule) :
    ∃ verdicts, Yields (checkRules currency rules) (.ok verdicts) ∧
      List.Forall₂ (fun r w => w.rule = r ∧
        Formula.Judged r.formula (Formula.sampleIn currency).lookup? w.verdict) rules verdicts := by
  obtain ⟨verdicts, hall, hverdicts⟩ := exists_yields_mapM (fun r (_ : r ∈ rules) =>
    (exists_checkRule currency r).elim (fun v hv => ⟨_, hv.2⟩))
  refine ⟨verdicts, ?_, hverdicts.imp (fun r w hw => ?_)⟩
  · refine hall.bind (g := fun _ => .ok verdicts) (fun ws hws => ?_)
    obtain rfl := Except.ok.inj hws
    exact (yields_note _ _ _ _ _).bind (g := fun _ => .ok verdicts) (fun _ _ => yields_pure _)
  · obtain ⟨v, hv, hcheck⟩ := exists_checkRule currency r
    obtain rfl := Except.ok.inj (hw.unique hcheck)
    exact ⟨rfl, hv⟩

/-! ### Agreement -/

theorem exists_getElem?_of_forall₂ {α β : Type} {R : α → β → Prop} {xs : List α} {ys : List β}
    (h : List.Forall₂ R xs ys) {i : Nat} {x : α} (hx : xs[i]? = some x) :
    ∃ y, ys[i]? = some y ∧ R x y := by
  induction h generalizing i with
  | nil => simp at hx
  | cons hR _ ih =>
      cases i with
      | zero =>
          obtain rfl := Option.some.inj hx
          exact ⟨_, rfl, hR⟩
      | succ i => exact ih hx

/-- The samples of two currencies give one verdict when the formula does not read the currency. -/
theorem judged_sampleIn_iff {source currency currency' : Text} {v : Formula.Verdict}
    (h : currency = currency' ∨ ¬ Formula.Reads source "commodity") :
    Formula.Judged source (Formula.sampleIn currency).lookup? v ↔
      Formula.Judged source (Formula.sampleIn currency').lookup? v := by
  refine Formula.judged_congr (fun name hreads => ?_)
  rcases h with rfl | hnot
  · rfl
  · refine Formula.lookup?_sampleIn (fun hname => ?_) currency currency'
    rw [hname] at hreads
    exact hnot hreads

/-- A validation and a check of the rules each say something of a formula just when its trial on
their sample values fails. They say the same when the currency is the usual one and when the formula
does not read it. -/
theorem formulaLines_eq_of_not_reads (c : Configuration) :
    ∃ v found verdicts, Yields (Validation.ofConfiguration c) (.ok v) ∧
      v.errors = Validation.currencyErrors c ++ Validation.ruleLines 1 c.rules found ∧
      found.length = c.rules.length ∧
      Yields (checkRules c.currency c.rules) (.ok verdicts) ∧
      verdicts.length = c.rules.length ∧
      ∀ (i : Nat) (r : Rule), c.rules[i]? = some r → r.formula ≠ "" →
        ∃ lines w, found[i]? = some lines ∧ verdicts[i]? = some ⟨r, w⟩ ∧
          (lines ≠ [] ↔ ¬ ∃ x, Formula.trial r.formula
            (Formula.sampleIn Configuration.defaultCurrency).lookup? = .ok x) ∧
          (w.ok = false ↔ ¬ ∃ x, Formula.trial r.formula
            (Formula.sampleIn c.currency).lookup? = .ok x) ∧
          (Configuration.defaultCurrency = c.currency ∨ ¬ Formula.Reads r.formula "commodity" →
            (lines ≠ [] ↔ w.ok = false) ∧ lines = Validation.formulaLines (i + 1) r w) := by
  obtain ⟨v, found, hv, herrors, hfound⟩ := Validation.exists_ofConfiguration c
  obtain ⟨verdicts, hchecked, hverdicts⟩ := exists_checkRules c.currency c.rules
  refine ⟨v, found, verdicts, hv, herrors, ?_, hchecked, hverdicts.length_eq.symm, ?_⟩
  · rw [← hfound.length_eq, List.length_zipIdx]
  intro i r hr hformula
  have hindexed : (c.rules.zipIdx 1)[i]? = some (r, i + 1) := by
    rw [List.getElem?_zipIdx, hr, Nat.add_comm]
    rfl
  obtain ⟨lines, hlines, hyields⟩ := exists_getElem?_of_forall₂ hfound hindexed
  obtain ⟨⟨r', w⟩, hw, hrule, hjudged⟩ := exists_getElem?_of_forall₂ hverdicts hr
  obtain rfl : r' = r := hrule
  obtain ⟨errors, herrors', hlast⟩ := Validation.exists_formulaErrors (i + 1) r'
    (Formula.sampleIn Configuration.defaultCurrency)
  obtain ⟨w', hjudged', rfl⟩ := hlast hformula
  obtain rfl := Except.ok.inj (hyields.unique herrors')
  refine ⟨_, w, hlines, hw, ?_, ?_, fun hsame => ?_⟩
  · rw [Validation.formulaLines_ne_nil_iff, ← hjudged'.ok_iff, Bool.not_eq_true]
  · rw [← hjudged.ok_iff, Bool.not_eq_true]
  · obtain rfl : w' = w :=
      Except.ok.inj (((judged_sampleIn_iff hsame).1 hjudged').unique hjudged)
    exact ⟨Validation.formulaLines_ne_nil_iff, rfl⟩

/-- In a ledger in dollars, a rule for dollars is reported by the validation of the configuration and
is valid in the check of its rules. -/
theorem not_agree_of_commodity :
    let r : Rule := ⟨"dollars", "Loans:*", "amount / if_else(commodity == 'USD', 1, 0)", ""⟩
    let c : Configuration := ⟨"USD", [r], ""⟩
    ∃ v verdicts, Yields (Validation.ofConfiguration c) (.ok v) ∧
      v.errors = [(Validation.label 1 r : Text) ++ ": evaluation error: Formula " ++
        (Text.quoted r.formula : String) ++ " failed: division by zero"] ∧
      Yields (checkRules c.currency c.rules) (.ok verdicts) ∧
      verdicts.map (fun w => w.verdict.ok) = [true] := by
  intro r c
  have herrors : ((Validation.ofConfiguration c).run Journaled.empty).1.toOption.map
      Validation.errors = some [(Validation.label 1 r : Text) ++ ": evaluation error: Formula " ++
        (Text.quoted r.formula : String) ++ " failed: division by zero"] := by
    decide +kernel
  have hvalid : ((checkRules c.currency c.rules).run Journaled.empty).1.toOption.map
      (List.map (fun w => w.verdict.ok)) = some [true] := by
    decide +kernel
  obtain ⟨v, found, hv, -⟩ := Validation.exists_ofConfiguration c
  obtain ⟨verdicts, hchecked, -⟩ := exists_checkRules c.currency c.rules
  rw [hv] at herrors
  rw [hchecked] at hvalid
  exact ⟨v, verdicts, hv, Option.some.inj herrors, hchecked, Option.some.inj hvalid⟩

end Pricing

end Appraisal
