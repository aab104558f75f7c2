import Appraisal.Proofs.Number.Monotone
import Appraisal.Proofs.Valuation.Validation
import Appraisal.Valuation.Preview

/-!
# Answers to requests for previews

A request is data of any shape, and still it is answered: with the result of the formula or with what
is wrong with it. The exceptions are whole numbers, in place of a number when they are too large for a
double, in place of a text when they have too many digits to be written. The main statement:
`answers_or_refuses`.
-/

namespace Appraisal

open Outcome Journaled

/-! ### Requests -/

namespace Datum

/-- A whole number that no double is near to. -/
def IsTooLarge (d : Datum) : Prop := ∃ n : Int, d = .whole n ∧ leastTooLarge ≤ n.natAbs

theorem exists_eq_truth {d : Datum} (h : d.isTruth = true) : ∃ b, d = .truth b := by
  cases d with
  | truth b => exact ⟨b, rfl⟩
  | _ => cases h

theorem isGiven_of_holdsOverlong {d : Datum} (h : d.holdsOverlong = true) : d.isGiven = true := by
  cases d with
  | whole n =>
      have hdigits : digitLimit < decimalLength n.natAbs := of_decide_eq_true h
      have hne : n ≠ 0 := by
        rintro rfl
        exact absurd hdigits (by decide +kernel)
      exact bne_iff_ne.2 hne
  | list items => cases items with
      | nil => cases h
      | cons _ _ => rfl
  | tuple items => cases items with
      | nil => cases h
      | cons _ _ => rfl
  | map entries => cases entries with
      | nil => cases h
      | cons _ _ => rfl
  | _ => cases h

end Datum

namespace PreviewRequest

variable {d : Datum} {body : List (Datum × Datum)}

theorem text_eq_error (h : d.holdsOverlong = true) :
    text d = .error (.refusal (Datum.overlong "")) := by
  rw [text, if_pos (Datum.isGiven_of_holdsOverlong h), Datum.toText, if_pos h]

theorem exists_text (h : d.holdsOverlong = false) : ∃ t, text d = .ok t := by
  unfold text
  split
  · exact ⟨d.display, if_neg (by simp [h])⟩
  · exact ⟨_, rfl⟩

theorem number_of_toFloat_ok {x : Float} (h : d.toFloat = .ok x) (htruth : d.isTruth = false)
    (default : Float) : number d default = .ok (if x == 0 then default else x) := by
  unfold number
  split
  · cases h
  · cases htruth
  · rw [h]

/-- What is no number stands for the usual one. -/
theorem number_of_toFloat_error {f : Fault} (h : d.toFloat = .error f)
    (hf : f = .mismatch ∨ ∃ r, f = .refusal r ∧ r.family = .value) (default : Float) :
    number d default = .ok default := by
  unfold number
  split
  · rfl
  · rfl
  · rw [h]
    obtain rfl | ⟨r, rfl, hr⟩ := hf
    · rfl
    · exact if_pos hr

theorem toFloat_eq_error {f : Fault} (h : d.toFloat = .error f) :
    (f = .mismatch ∨ ∃ r, f = .refusal r ∧ r.family = .value) ∨
      f = .refusal (.quantity .wholeTooLarge) ∧ d.IsTooLarge := by
  unfold Datum.toFloat at h
  split at h
  · cases h
  · split at h
    · cases h
    · rename_i n _ hfloat
      exact .inr ⟨(Except.error.inj h).symm, n, rfl, floatOfInt?_eq_none_iff.1 hfloat⟩
  · cases h
  · unfold Datum.decimalFloat at h
    split at h
    · cases h
    · exact .inl (.inr ⟨_, (Except.error.inj h).symm, rfl⟩)
  · split at h
    · cases h
    · exact .inl (.inr ⟨_, (Except.error.inj h).symm, rfl⟩)
  · exact .inl (.inl (Except.error.inj h).symm)

theorem number_eq_error (h : d.IsTooLarge) (default : Float) :
    number d default = .error (.refusal (.quantity .wholeTooLarge)) := by
  obtain ⟨n, rfl, hn⟩ := h
  unfold number Datum.toFloat
  simp only [floatOfInt?_eq_none_iff.2 hn]
  rfl

theorem exists_number (h : ¬ d.IsTooLarge) (default : Float) : ∃ x, number d default = .ok x := by
  cases hfloat : d.toFloat with
  | ok x =>
      cases htruth : d.isTruth with
      | false => exact ⟨_, number_of_toFloat_ok hfloat htruth default⟩
      | true =>
          obtain ⟨b, rfl⟩ := Datum.exists_eq_truth htruth
          exact ⟨_, rfl⟩
  | error f =>
      rcases toFloat_eq_error hfloat with hf | ⟨-, hlarge⟩
      · exact ⟨_, number_of_toFloat_error hfloat hf default⟩
      · exact absurd hlarge h

inductive IsRefused (body : List (Datum × Datum)) : Refusal → Prop
  | number (h : (Datum.field body "amount").IsTooLarge ∨ (Datum.field body "days_held").IsTooLarge) :
      IsRefused body (.quantity .wholeTooLarge)
  | text (h : (Datum.field body "formula").holdsOverlong = true ∨
        (Datum.field body "note").holdsOverlong = true) :
      IsRefused body (Datum.overlong "")

theorem sound_ofBody (body : List (Datum × Datum)) :
    Sound (fun f => ∃ r, f = .refusal r ∧ IsRefused body r) (fun _ => ∀ r, ¬ IsRefused body r)
      (ofBody body) := by
  unfold ofBody
  cases hformula : (Datum.field body "formula").holdsOverlong with
  | true =>
      rw [text_eq_error hformula]
      exact ⟨_, rfl, .text (.inl hformula)⟩
  | false =>
      obtain ⟨formula, htext⟩ := exists_text hformula
      rw [htext, ok_bind]
      by_cases hamount : (Datum.field body "amount").IsTooLarge
      · rw [number_eq_error hamount]
        exact ⟨_, rfl, .number (.inl hamount)⟩
      obtain ⟨amount, hnumber⟩ := exists_number hamount defaultAmount
      rw [hnumber, ok_bind]
      by_cases hdays : (Datum.field body "days_held").IsTooLarge
      · rw [number_eq_error hdays]
        exact ⟨_, rfl, .number (.inr hdays)⟩
      obtain ⟨days, hnumber⟩ := exists_number hdays defaultDays
      rw [hnumber, ok_bind]
      cases hnote : (Datum.field body "note").holdsOverlong with
      | true =>
          rw [text_eq_error hnote]
          exact ⟨_, rfl, .text (.inr hnote)⟩
      | false =>
          obtain ⟨note, htext⟩ := exists_text hnote
          rw [htext, ok_bind]
          intro r hr
          cases hr with
          | number h => exact h.elim hamount hdays
          | text h =>
              rw [hformula, hnote] at h
              exact h.elim Bool.false_ne_true Bool.false_ne_true

end PreviewRequest

/-! ### Answers -/

namespace Preview

def sampleOf (r : PreviewRequest) (now : Moment) (currency : Text) : Formula.Context :=
  .make r.amount 1 (startOf now r.daysHeld) r.daysHeld r.note account currency

theorem contextOf_eq (r : PreviewRequest) (now : Moment) (currency : Text) :
    contextOf r now currency = .ok (sampleOf r now currency) := rfl

/-- What a trial of a formula says is a number or a message. -/
theorem exists_ofOutcome (source : Text) (c : Formula.Context) :
    ∃ outcome, ofOutcome (Formula.trial source c.lookup?) = .ok outcome ∧
      ∀ x, outcome = .ok x → x.isFinite = true := by
  have hsound := Formula.sound_trial source c
  cases htrial : Formula.trial source c.lookup? with
  | ok x =>
      rw [htrial] at hsound
      refine ⟨.ok x, rfl, fun y hy => ?_⟩
      rwa [← Except.ok.inj hy]
  | error f =>
      rw [htrial] at hsound
      obtain ⟨e, rfl⟩ := hsound
      exact ⟨.error (explain e), rfl, fun y hy => by cases hy⟩

structure IsOf (p : Preview) (r : PreviewRequest) (now : Moment) (currency : Text) : Prop where
  formula : p.formula = r.formula
  context : p.context = sampleOf r now currency
  outcome : ofOutcome (Formula.trial r.formula p.context.lookup?) = .ok p.outcome
  result : ∀ x, p.outcome = .ok x → x.isFinite = true

theorem exists_ofRequest (r : PreviewRequest) (now : Moment) (currency : Text) :
    ∃ p : Preview, p.IsOf r now currency ∧ Yields (ofRequest r now currency) (.ok p) := by
  obtain ⟨outcome, houtcome, hfinite⟩ := exists_ofOutcome r.formula (sampleOf r now currency)
  let p : Preview := ⟨r.formula, sampleOf r now currency, outcome⟩
  refine ⟨p, ⟨rfl, rfl, houtcome, hfinite⟩, ?_⟩
  unfold ofRequest
  refine (yields_lift _).bind (g := fun _ => .ok p) (fun context hcontext => ?_)
  obtain rfl := Except.ok.inj ((contextOf_eq r now currency).symm.trans hcontext)
  refine (Formula.yields_tried r.formula _).outcome.bind (g := fun _ => .ok p) (fun trial htrial => ?_)
  obtain rfl := Except.ok.inj htrial
  rw [houtcome]
  refine (yields_lift _).bind (g := fun _ => .ok p) (fun result hresult => ?_)
  obtain rfl := Except.ok.inj hresult
  exact yields_pure p

/-- The payload holds a result or an error, and not both. -/
def HoldsOne (p : Preview) : Prop :=
  ∃ entries, p.payload = .map entries ∧
    Xor ((Datum.lookup? "result" entries).isSome = true)
      ((Datum.lookup? "error" entries).isSome = true)

theorem holdsOne (p : Preview) : p.HoldsOne := by
  refine ⟨_, rfl, ?_⟩
  unfold resultField
  cases p.outcome with
  | ok x => exact .inl ⟨rfl, Bool.false_ne_true⟩
  | error message => exact .inr ⟨rfl, Bool.false_ne_true⟩

theorem yields_answer_of_error {body : List (Datum × Datum)} {f : Fault}
    (h : PreviewRequest.ofBody body = .error f) (now : Except Fault Moment) (currency : Text) :
    Yields (answer body now currency) (.error f) := by
  unfold answer
  rw [h]
  exact (yields_lift _).bind (g := fun _ => .error f) (fun _ hrequest => by cases hrequest)

theorem exists_answer {body : List (Datum × Datum)} {r : PreviewRequest}
    (h : PreviewRequest.ofBody body = .ok r) (now : Moment) (currency : Text) :
    ∃ p : Preview, p.IsOf r now currency ∧ Yields (answer body (.ok now) currency) (.ok p) := by
  obtain ⟨p, hp, hyields⟩ := exists_ofRequest r now currency
  refine ⟨p, hp, ?_⟩
  unfold answer
  rw [h]
  refine (yields_lift _).bind (g := fun _ => .ok p) (fun request hrequest => ?_)
  obtain rfl := Except.ok.inj hrequest
  refine (yields_lift _).bind (g := fun _ => .ok p) (fun now' hnow => ?_)
  obtain rfl := Except.ok.inj hnow
  refine hyields.bind (g := fun _ => .ok p) (fun preview hpreview => ?_)
  obtain rfl := Except.ok.inj hpreview
  exact (yields_note _ _ _ _ _).bind (g := fun _ => .ok p) (fun _ _ => yields_pure p)

/-- Every request is answered, and the answer holds either a result or an error, but for requests in
which a whole number is too large for a double or has too many digits to be written. -/
theorem answers_or_refuses (body : List (Datum × Datum)) (now : Moment) (currency : Text) :
    (∃ p, Yields (answer body (.ok now) currency) (.ok p) ∧ p.HoldsOne ∧
      ∀ r, ¬ PreviewRequest.IsRefused body r) ∨
    ∃ r, Yields (answer body (.ok now) currency) (.error (.refusal r)) ∧
      PreviewRequest.IsRefused body r := by
  have hsound := PreviewRequest.sound_ofBody body
  cases hbody : PreviewRequest.ofBody body with
  | error f =>
      rw [hbody] at hsound
      obtain ⟨r, rfl, hr⟩ := hsound
      exact .inr ⟨r, yields_answer_of_error hbody (.ok now) currency, hr⟩
  | ok request =>
      rw [hbody] at hsound
      obtain ⟨p, -, hyields⟩ := exists_answer hbody now currency
      exact .inl ⟨p, hyields, p.holdsOne, hsound⟩

def hugeAmount : List (Datum × Datum) :=
  [(.text "formula", .text "amount"), (.text "amount", .whole (10 ^ 400))]

theorem answer_hugeAmount_eq_error :
    Yields (answer hugeAmount (.ok .epoch) "INR") (.error (.refusal (.quantity .wholeTooLarge))) := by
  have hlarge : (Datum.field hugeAmount "amount").IsTooLarge := ⟨10 ^ 400, rfl, by decide +kernel⟩
  have hformula : PreviewRequest.text (Datum.field hugeAmount "formula") = .ok "amount" := rfl
  refine yields_answer_of_error ?_ _ _
  unfold PreviewRequest.ofBody
  rw [hformula, ok_bind, PreviewRequest.number_eq_error hlarge, error_bind]

end Preview

end Appraisal
