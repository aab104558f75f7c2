import Appraisal.Proofs.Formula.Soundness
import Appraisal.Proofs.Journal.Writing
import Appraisal.Valuation.Pricing

/-!
# Faults of pricing

A formula that compiles never meets a value of a kind that an operation does not know. So the price
of a posting is given, or it is missing for a reason that a list of loans tolerates; which of the
two does not depend on what has been written before.
-/

namespace Appraisal

open Outcome Journaled

/-- A fault that is neither a value of a kind that an operation does not know nor a refusal of the
system. -/
def Fault.IsTolerable (f : Fault) : Prop :=
  f ≠ .mismatch ∧ f ≠ .unsupported ∧ ∀ r, f = .refusal r → r.family ≠ .system

theorem Fault.isTolerable_formula (e : Formula.FormulaError) : (Fault.formula e).IsTolerable := by
  simp [IsTolerable]

theorem Fault.isTolerable_refusal {r : Refusal} (h : r.family ≠ .system) :
    (Fault.refusal r).IsTolerable := by
  simp [IsTolerable, h]

theorem Fault.isTolerable_notIntegral (e : NotIntegral) :
    (Fault.refusal (.notIntegral e)).IsTolerable := by
  cases e <;> exact isTolerable_refusal (by decide)

theorem Fault.isTolerable_time (e : TimeError) : (Fault.refusal (.time e)).IsTolerable := by
  cases e with
  | notIntegral why => cases why <;> exact isTolerable_refusal (by decide)
  | _ => exact isTolerable_refusal (by simp [Refusal.family])

theorem Fault.isTolerable_decimal (e : DecimalError) : (Fault.decimal e).IsTolerable := by
  simp [IsTolerable]

theorem Outcome.sound_mapError {ε δ α : Type} {allowed : δ → Prop} {P : α → Prop} {f : ε → δ}
    {x : Except ε α} (hf : ∀ e, allowed (f e)) (hx : ∀ a, x = .ok a → P a) :
    Sound allowed P (x.mapError f) := by
  cases x with
  | error e => exact hf e
  | ok a => exact hx a rfl

namespace Formula

/-- A program that has been compiled gives a finite number, or it ends with the fault of a formula. -/
theorem sound_runNumeric {source : Text} {p : Program}
    (h : compile source postingSchema Library.registry defaultNodeLimit = .ok p) (c : Context) :
    Sound (fun f => ∃ e, f = .formula e) (fun x => x.isFinite = true) (p.runNumeric c.lookup?) := by
  unfold Program.runNumeric
  rcases ends_run h c defaultStepLimit with ⟨d, hd, hk⟩ | he | ⟨e, ⟨detail, -, rfl⟩, he⟩
  · rw [hd, ok_bind]
    unfold Program.numeric
    generalize p.kind = k at hk
    cases hk with
    | number x =>
        by_cases hx : x.isFinite = true
        · simp [Datum.quantity?, Quantity.toFloat, Library.lift, hx]
        · simp [Datum.quantity?, Quantity.toFloat, Library.lift, hx]
    | _ => exact ⟨_, rfl⟩
  · rw [he]
    exact ⟨_, rfl⟩
  · rw [he]
    exact ⟨_, rfl⟩

theorem sound_runNumeric_tolerable {source : Text} {p : Program}
    (h : compile source postingSchema Library.registry defaultNodeLimit = .ok p) (c : Context) :
    Sound Fault.IsTolerable (fun _ => True) (p.runNumeric c.lookup?) :=
  (sound_runNumeric h c).mono (fun _ ⟨e, he⟩ => he ▸ Fault.isTolerable_formula e)
    (fun _ _ => trivial)

theorem sound_decimalFloat_tolerable (d : Decimal) :
    Sound Fault.IsTolerable (fun _ => True) (Datum.decimalFloat d) := by
  unfold Datum.decimalFloat
  split
  · trivial
  · exact Fault.isTolerable_refusal (by decide)

theorem sound_ofPosting_tolerable (p : Posting) (instant : Moment) :
    Sound Fault.IsTolerable (fun _ => True) (Context.ofPosting p instant) :=
  (sound_decimalFloat_tolerable _).bind (fun _ _ =>
    (sound_decimalFloat_tolerable _).bind (fun _ _ => trivial))

theorem settles_compiled (source : Text) :
    Settles Fault.IsTolerable
      (fun p => compile source postingSchema Library.registry defaultNodeLimit = .ok p)
      (compiled (.text source)) := by
  have hlift := settles_lift (sound_mapError Fault.isTolerable_formula (fun p hp => hp)
    (x := compile source postingSchema Library.registry defaultNodeLimit))
  exact hlift.bind (fun p hp => settles_note.bind (fun _ _ => settles_pure hp))

end Formula

namespace Pricing

theorem settles_evaluate (r : Rule) (p : Posting) (instant : Moment) :
    Settles Fault.IsTolerable (fun _ => True) (evaluate r p instant) := by
  refine (Formula.settles_compiled r.formula).bind (fun program hp => ?_)
  refine (settles_lift (Formula.sound_ofPosting_tolerable p instant)).bind (fun c _ => ?_)
  refine (settles_lift (Formula.sound_runNumeric_tolerable hp c)).bind (fun x _ => ?_)
  exact settles_pure trivial

/-- A posting has a price, or its price is missing for a reason that is tolerated. -/
theorem settles_marketValue (rules : List Rule) (p : Posting) (instant : Moment) :
    Settles Fault.IsTolerable (fun _ => True) (marketValue rules p instant) := by
  unfold marketValue
  cases Rule.first? rules p with
  | none => exact settles_pure trivial
  | some r =>
      refine ((settles_evaluate r p instant).outcome Fault.IsTolerable).bind (fun o ho => ?_)
      cases o with
      | ok value => exact settles_pure trivial
      | error e =>
          cases e with
          | formula e =>
              exact (settles_note.bound _).bind (fun _ _ => settles_pure trivial)
          | _ => exact (yields_throw _).settles ho

end Pricing

end Appraisal
