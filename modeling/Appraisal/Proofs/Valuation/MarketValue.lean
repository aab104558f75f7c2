import Appraisal.Proofs.Journal.Effects
import Appraisal.Proofs.Valuation.Pricing

/-!
# The market value of a posting

No formula stops a valuation. A posting without a rule is worth its amount. Under its first rule it
is worth what the formula gives, and its amount again when the formula cannot be compiled or gives no
finite number; only then one record of the failure is written. The bound fields are afterwards what
they were.
-/

namespace Appraisal

open Outcome Journaled

namespace Formula

/-- What a formula gives for a posting at an instant: a number, or the error of its compilation or of
its run. -/
def Computes (source : Text) (p : Posting) (instant : Moment)
    (result : Except FormulaError Float) : Prop :=
  match compile source postingSchema Library.registry defaultNodeLimit with
  | .error e => result = .error e
  | .ok program => ∃ c, Context.ofPosting p instant = .ok c ∧
      program.runNumeric c.lookup? = result.mapError .formula

theorem exists_decimalFloat {d : Decimal} (h : d.isSignaling = false) :
    ∃ x, Datum.decimalFloat d = .ok x := by
  cases d with
  | finite s c e => exact ⟨_, rfl⟩
  | infinite s => exact ⟨_, rfl⟩
  | nan s g payload =>
      obtain rfl : g = false := h
      exact ⟨_, rfl⟩

theorem exists_ofPosting {p : Posting} (hamount : p.amount.isSignaling = false)
    (hquantity : p.quantity.isSignaling = false) (instant : Moment) :
    ∃ c, Context.ofPosting p instant = .ok c := by
  obtain ⟨x, hx⟩ := exists_decimalFloat hamount
  obtain ⟨y, hy⟩ := exists_decimalFloat hquantity
  unfold Context.ofPosting Context.ofAmounts
  rw [hx, ok_bind, hy, ok_bind]
  exact ⟨_, rfl⟩

theorem exists_computes {p : Posting} {instant : Moment} {c : Context}
    (hc : Context.ofPosting p instant = .ok c) (source : Text) :
    ∃ result, Computes source p instant result ∧ ∀ x, result = .ok x → x.isFinite = true := by
  unfold Computes
  cases hp : compile source postingSchema Library.registry defaultNodeLimit with
  | error e => exact ⟨.error e, rfl, fun x hx => by cases hx⟩
  | ok program =>
      have hsound := sound_runNumeric hp c
      cases hrun : program.runNumeric c.lookup? with
      | ok x =>
          rw [hrun] at hsound
          refine ⟨.ok x, ⟨c, hc, hrun⟩, fun y hy => ?_⟩
          rw [← Except.ok.inj hy]
          exact hsound
      | error f =>
          rw [hrun] at hsound
          obtain ⟨e, rfl⟩ := hsound
          exact ⟨.error e, ⟨c, hc, hrun⟩, fun x hx => by cases hx⟩

end Formula

namespace Rule

def IsFirst (rules : List Rule) (p : Posting) (r : Rule) : Prop :=
  r.applies p = true ∧ ∃ earlier later, rules = earlier ++ r :: later ∧
    ∀ r' ∈ earlier, r'.applies p = false

theorem first?_eq_none_iff {rules : List Rule} {p : Posting} :
    first? rules p = none ↔ ∀ r ∈ rules, r.applies p = false := by
  unfold first?
  simp

theorem first?_eq_some_iff {rules : List Rule} {p : Posting} {r : Rule} :
    first? rules p = some r ↔ IsFirst rules p r := by
  unfold first? IsFirst
  rw [List.find?_eq_some_iff_append]
  simp

end Rule

namespace Pricing

def isFailure (r : Journal.Record) : Bool := r.message = "valuation_formula_failed"

def failureRecord (b : Journal.Bindings) (r : Rule) (p : Posting) (e : Formula.FormulaError) :
    Journal.Record where
  level := Journal.warningLevel
  logger := Journal.loggerName logger
  message := "valuation_formula_failed"
  bindings := b.assign [(.rule, some (.text r.name)), (.account, some (.text p.account))]
  fields := [("formula", .text r.formula), ("posting_date", .date p.date),
    ("fallback_amount", .decimal p.amount), ("error_code", .text e.code),
    ("error", .text e.message)]
  report := none

/-- What a posting is worth under some rules, whether one of them applies, and the records of failed
formulas that this leaves when the fields `b` are bound. -/
inductive Priced (rules : List Rule) (p : Posting) (instant : Moment) (b : Journal.Bindings) :
    Decimal × Bool → List Journal.Record → Prop
  | unruled (h : ∀ r ∈ rules, r.applies p = false) : Priced rules p instant b (p.amount, false) []
  | valued {r : Rule} {x : Float} (hr : r.IsFirst rules p)
      (hx : Formula.Computes r.formula p instant (.ok x)) (hfinite : x.isFinite = true) :
      Priced rules p instant b (Formula.toMoney x, true) []
  | fallback {r : Rule} {e : Formula.FormulaError} (hr : r.IsFirst rules p)
      (he : Formula.Computes r.formula p instant (.error e)) :
      Priced rules p instant b (p.amount, true) [failureRecord b r p e]

theorem Priced.applied_eq_false_iff {rules : List Rule} {p : Posting} {instant : Moment}
    {b : Journal.Bindings} {v : Decimal × Bool} {records : List Journal.Record}
    (h : Priced rules p instant b v records) :
    v.2 = false ↔ ∀ r ∈ rules, r.applies p = false := by
  have hruled {r : Rule} (hr : r.IsFirst rules p) : ¬ ∀ r ∈ rules, r.applies p = false := by
    obtain ⟨happlies, earlier, later, rfl, -⟩ := hr
    intro hnone
    have hnot := hnone r (List.mem_append_right earlier List.mem_cons_self)
    rw [happlies] at hnot
    cases hnot
  cases h with
  | unruled h => exact ⟨fun _ => h, fun _ => rfl⟩
  | valued hr => simp [hruled hr]
  | fallback hr => simp [hruled hr]

/-! ### What pricing writes -/

/-- The computation ends with an outcome, leaves the bound fields as they are and writes no record of a
failed formula. -/
def Quiet {ε α : Type} (x : Journaled ε α) (r : Except ε α) : Prop :=
  ∃ w, Writes x r w ∧ ∀ b, (w b).filter isFailure = []

section

variable {ε α β : Type} {x : Journaled ε α} {f : α → Journaled ε β}

theorem quiet_pure (a : α) : Quiet (pure a : Journaled ε α) (.ok a) :=
  ⟨_, writes_pure a, fun _ => rfl⟩

theorem quiet_lift {x r : Except ε α} (h : x = r) : Quiet (lift x) r :=
  ⟨_, writes_lift h, fun _ => rfl⟩

theorem quiet_note {level : Int} {logger message : Text} {fields : List (Text × Datum)}
    (h : message ≠ "valuation_formula_failed") :
    Quiet (note level logger message fields : Journaled ε Unit) (.ok ()) := by
  refine ⟨_, writes_note level logger message fields, fun b => ?_⟩
  rw [List.filter_cons_of_neg, List.filter_nil]
  unfold isFailure
  simpa using h

theorem Quiet.bind {a : α} {r : Except ε β} (hx : Quiet x (.ok a)) (hf : Quiet (f a) r) :
    Quiet (x >>= f) r := by
  obtain ⟨w, hw, hfailures⟩ := hx
  obtain ⟨w', hw', hfailures'⟩ := hf
  refine ⟨_, hw.bind hw', fun b => ?_⟩
  rw [List.filter_append, hfailures, hfailures', List.append_nil]

theorem Quiet.bind_error {e : ε} (hx : Quiet x (.error e)) : Quiet (x >>= f) (.error e) := by
  obtain ⟨w, hw, hfailures⟩ := hx
  exact ⟨w, hw.bind_error, hfailures⟩

end

theorem quiet_compiled (source : Text) :
    Quiet (Formula.compiled (.text source))
      ((Formula.compile source Formula.postingSchema Formula.Library.registry
        Formula.defaultNodeLimit).mapError Fault.formula) := by
  have hlift : (Formula.compileDatum (.text source) Formula.postingSchema Formula.Library.registry
      Formula.defaultNodeLimit).mapError Fault.formula =
    (Formula.compile source Formula.postingSchema Formula.Library.registry
      Formula.defaultNodeLimit).mapError Fault.formula := rfl
  unfold Formula.compiled
  cases hp : Formula.compile source Formula.postingSchema Formula.Library.registry
      Formula.defaultNodeLimit with
  | error e =>
      rw [hp] at hlift
      exact (quiet_lift hlift).bind_error
  | ok program =>
      rw [hp] at hlift
      exact (quiet_lift hlift).bind ((quiet_note (by decide)).bind (quiet_pure program))

/-- The value of a rule is what its formula computes, as money. -/
theorem quiet_evaluate {r : Rule} {p : Posting} {instant : Moment}
    {result : Except Formula.FormulaError Float}
    (h : Formula.Computes r.formula p instant result) :
    Quiet (evaluate r p instant) ((result.map Formula.toMoney).mapError Fault.formula) := by
  have hcompiled := quiet_compiled r.formula
  unfold Formula.Computes at h
  unfold evaluate
  cases hp : Formula.compile r.formula Formula.postingSchema Formula.Library.registry
      Formula.defaultNodeLimit with
  | error e =>
      rw [hp] at h hcompiled
      obtain rfl := h
      exact hcompiled.bind_error
  | ok program =>
      rw [hp] at h hcompiled
      obtain ⟨c, hc, hrun⟩ := h
      refine hcompiled.bind ((quiet_lift hc).bind ?_)
      cases result with
      | error e => exact (quiet_lift hrun).bind_error
      | ok x => exact (quiet_lift hrun).bind (quiet_pure (Formula.toMoney x))

theorem writes_recordFailure (r : Rule) (p : Posting) (e : Formula.FormulaError) :
    Writes (recordFailure r p e) (.ok ()) (fun b => [failureRecord b r p e]) :=
  (writes_note _ _ _ _).bound _

theorem isFailure_failureRecord (b : Journal.Bindings) (r : Rule) (p : Posting)
    (e : Formula.FormulaError) : isFailure (failureRecord b r p e) = true :=
  decide_eq_true rfl

/-- A valuation leaves the bound fields as they are, and gives what the posting is worth. -/
theorem writes_marketValue (rules : List Rule) {p : Posting} {instant : Moment}
    {c : Formula.Context} (hc : Formula.Context.ofPosting p instant = .ok c) :
    ∃ v w, Writes (marketValue rules p instant) (.ok v) w ∧
      ∀ b, Priced rules p instant b v ((w b).filter isFailure) := by
  unfold marketValue
  cases hfirst : Rule.first? rules p with
  | none =>
      exact ⟨_, _, writes_pure _, fun b => .unruled (Rule.first?_eq_none_iff.1 hfirst)⟩
  | some r =>
      have hr := Rule.first?_eq_some_iff.1 hfirst
      obtain ⟨result, hresult, hfinite⟩ := Formula.exists_computes hc r.formula
      obtain ⟨w, hw, hfailures⟩ := quiet_evaluate hresult
      cases result with
      | ok x =>
          refine ⟨_, _, hw.outcome.bind (writes_pure _), fun b => ?_⟩
          simp only [List.nil_append, hfailures b]
          exact .valued hr hresult (hfinite x rfl)
      | error e =>
          refine ⟨_, _, hw.outcome.bind ((writes_recordFailure r p e).bind (writes_pure _)),
            fun b => ?_⟩
          simp only [List.nil_append, List.filter_append, hfailures b, List.append_nil,
            List.filter_cons_of_pos (isFailure_failureRecord b r p e), List.filter_nil]
          exact .fallback hr hresult

/-- A valuation never fails. It gives the amount without a rule exactly when no rule applies;
otherwise the money that the formula of the first rule gives, or the amount with one record of the
failure, and the bound fields are what they were. What is not given by a formula is an error of that
formula. -/
theorem marketValue_eq_ok (rules : List Rule) (p : Posting) (instant : Moment)
    (hamount : p.amount.isSignaling = false) (hquantity : p.quantity.isSignaling = false)
    (s : JournalState) :
    (∃ v records,
      (marketValue rules p instant).run s = (.ok v, ⟨s.bindings, records ++ s.records⟩) ∧
        Priced rules p instant s.bindings v (records.filter isFailure) ∧
        (v.2 = false ↔ ∀ r ∈ rules, r.applies p = false)) ∧
    ∃ c, Formula.Context.ofPosting p instant = .ok c ∧
      ∀ source program, Formula.compile source Formula.postingSchema Formula.Library.registry
          Formula.defaultNodeLimit = .ok program →
        ∀ f, program.runNumeric c.lookup? = .error f → ∃ e, f = .formula e := by
  obtain ⟨c, hc⟩ := Formula.exists_ofPosting hamount hquantity instant
  obtain ⟨v, w, hw, hpriced⟩ := writes_marketValue rules hc
  refine ⟨⟨v, w s.bindings, hw s, hpriced _, (hpriced s.bindings).applied_eq_false_iff⟩, c, hc, ?_⟩
  intro source program hp f hf
  have hsound := Formula.sound_runNumeric hp c
  rw [hf] at hsound
  exact hsound

/-- A rule that divides by the quantity, for a posting of nothing. -/
theorem marketValue_of_division_by_zero :
    let p : Posting := ⟨"Loans:Asha", .finite false 100 0, .newYear2024, .zero, "", "", "INR",
      by decide⟩
    let rules : List Rule := [⟨"none", "Assets:*", "amount", ""⟩,
      ⟨"ratio", "Loans:*", "amount / quantity", ""⟩]
    let instant : Moment := ⟨.newYear2024, 0, none, by decide⟩
    p.amount.isSignaling = false ∧ p.quantity.isSignaling = false ∧
      ∃ v records, (marketValue rules p instant).run empty = (.ok v, ⟨.empty, records⟩) ∧
        Priced rules p instant .empty v (records.filter isFailure) ∧
        v = (.finite false 100 0, true) ∧ (records.filter isFailure).length = 1 := by
  intro p rules instant
  have hrun : (((marketValue rules p instant).run empty).1.toOption,
      (((marketValue rules p instant).run empty).2.records.filter isFailure).length) =
        (some (.finite false 100 0, true), 1) := by
    decide +kernel
  obtain ⟨⟨v, records, hv, hpriced, -⟩, -⟩ := marketValue_eq_ok rules p instant rfl rfl empty
  rw [hv] at hrun
  obtain ⟨hvalue, hlength⟩ := Prod.mk.inj hrun
  simp only [empty, List.append_nil] at hv hlength
  exact ⟨rfl, rfl, v, records, hv, hpriced, Option.some.inj hvalue, hlength⟩

end Pricing

end Appraisal
