import Appraisal.Command.Run
import Appraisal.Proofs.Json.Document
import Appraisal.Proofs.Number.Operations
import Appraisal.Proofs.Valuation.Preview

/-!
# The numbers of a preview

The result of a preview is finite, for the evaluator refuses any other. The sample values are taken
from the request as they are: a request may name a double that is not finite, and then the preview has
it among its values and is no JSON document. Nothing else can go wrong: the months and years are
quotients of the days by numbers above one. The main statement: `payload_isDocument_iff`.
-/

namespace Appraisal

open Outcome Journaled

def Datum.ReadsNonFinite (d : Datum) : Prop := ∃ x, d.toFloat = .ok x ∧ x.isFinite = false

namespace PreviewRequest

/-- The number of a field is finite unless the field is read as a double that is not. -/
theorem isFinite_number_iff {d : Datum} {default x : Float} (h : number d default = .ok x)
    (hdefault : default.isFinite = true) : x.isFinite = true ↔ ¬ d.ReadsNonFinite := by
  cases htruth : d.isTruth with
  | true =>
      obtain ⟨b, rfl⟩ := Datum.exists_eq_truth htruth
      obtain rfl := Except.ok.inj h
      refine iff_of_true hdefault ?_
      rintro ⟨y, hy, hfinite⟩
      obtain rfl := Except.ok.inj hy
      revert hfinite
      cases b <;> decide +kernel
  | false =>
      cases hfloat : d.toFloat with
      | ok y =>
          rw [number_of_toFloat_ok hfloat htruth] at h
          obtain rfl := Except.ok.inj h
          have hreads : d.ReadsNonFinite ↔ y.isFinite = false :=
            ⟨fun ⟨x, hx, hfinite⟩ => Except.ok.inj (hfloat.symm.trans hx) ▸ hfinite,
              fun hfinite => ⟨y, hfloat, hfinite⟩⟩
          rw [hreads, Bool.not_eq_false]
          -- the usual number stands for zero, which is finite as well
          split
          · rename_i hzero
            refine iff_of_true hdefault (Bool.not_eq_false _ ▸ fun hfinite => ?_)
            exact Bool.false_ne_true ((Binary.beq_zero_of_not_isFinite hfinite).symm.trans hzero)
          · rfl
      | error f =>
          have hreads : ¬ d.ReadsNonFinite := by
            rintro ⟨y, hy, -⟩
            rw [hfloat] at hy
            cases hy
          rcases toFloat_eq_error hfloat with hf | ⟨-, hlarge⟩
          · rw [number_of_toFloat_error hfloat hf] at h
            obtain rfl := Except.ok.inj h
            exact iff_of_true hdefault hreads
          · rw [number_eq_error hlarge] at h
            cases h

/-- A request with no whole number for a field is not refused. -/
theorem not_isRefused {body : List (Datum × Datum)}
    (hamount : ∀ n, Datum.field body "amount" ≠ .whole n)
    (hdays : ∀ n, Datum.field body "days_held" ≠ .whole n)
    (hformula : (Datum.field body "formula").holdsOverlong = false)
    (hnote : (Datum.field body "note").holdsOverlong = false) (r : Refusal) :
    ¬ IsRefused body r := by
  intro h
  cases h with
  | number h =>
      rcases h with ⟨n, hn, -⟩ | ⟨n, hn, -⟩
      · exact hamount n hn
      · exact hdays n hn
  | text h =>
      rw [hformula, hnote] at h
      exact h.elim Bool.false_ne_true Bool.false_ne_true

theorem numbers_of_ofBody {body : List (Datum × Datum)} {r : PreviewRequest}
    (h : ofBody body = .ok r) :
    number (Datum.field body "amount") defaultAmount = .ok r.amount ∧
      number (Datum.field body "days_held") defaultDays = .ok r.daysHeld := by
  obtain ⟨formula, -, h⟩ := bind_eq_ok_iff.1 h
  obtain ⟨amount, hamount, h⟩ := bind_eq_ok_iff.1 h
  obtain ⟨daysHeld, hdays, h⟩ := bind_eq_ok_iff.1 h
  obtain ⟨note, -, h⟩ := bind_eq_ok_iff.1 h
  obtain rfl := Except.ok.inj h
  exact ⟨hamount, hdays⟩

end PreviewRequest

namespace Preview

open Datum (Holds holds_object_iff)

theorem isJson_payload (p : Preview) : Json.IsJson p.payload := by
  have hresult : Json.IsJson p.resultField.2 := by
    unfold resultField
    cases p.outcome with
    | ok x => exact .double x
    | error message => exact .text message
  have hsample : ∀ f ∈ sampleData p.context, Json.IsJson f.2 := by
    simp only [sampleData, List.forall_mem_cons]
    exact ⟨.double _, .double _, .double _, .double _, .text _, List.forall_mem_nil _⟩
  refine .object (List.forall_mem_cons.2 ⟨.text _, List.forall_mem_cons.2 ⟨.object hsample, ?_⟩⟩)
  exact List.forall_mem_singleton.2 hresult

/-- No whole number stands in a payload. -/
theorem holdsOverlong_payload (p : Preview) : p.payload.holdsOverlong = false := by
  have hresult : p.resultField.2.holdsOverlong = false := by
    unfold resultField
    cases p.outcome with
    | ok x => rfl
    | error message => rfl
  refine Datum.holdsOverlong_object_iff.2 (List.forall_mem_cons.2 ⟨rfl, List.forall_mem_cons.2
    ⟨Datum.holdsOverlong_object_iff.2 ?_, List.forall_mem_singleton.2 hresult⟩⟩)
  simp [sampleData, Datum.holdsOverlong]

theorem holds_double_iff {x y : Float} : Holds x (.double y) ↔ x = y :=
  ⟨fun h => by cases h; rfl, fun h => h ▸ .double⟩

theorem not_holds_text {x : Float} {t : Text} : ¬ Holds x (.text t) := nofun

/-- The doubles of a payload are the four of the sample values and the result. -/
theorem holds_payload_iff {p : Preview} {x : Float} :
    Holds x p.payload ↔ (x = p.context.amount ∨ x = p.context.daysHeld ∨
      x = p.context.monthsHeld ∨ x = p.context.yearsHeld) ∨ p.outcome = .ok x := by
  have hresult : Holds x p.resultField.2 ↔ p.outcome = .ok x := by
    unfold resultField
    cases p.outcome with
    | ok y => exact holds_double_iff.trans ⟨fun h => h ▸ rfl, fun h => (Except.ok.inj h).symm⟩
    | error message => exact iff_of_false not_holds_text (fun h => by cases h)
  simp only [payload, sampleData, holds_object_iff, List.mem_cons, List.not_mem_nil, or_false,
    exists_eq_or_imp, exists_eq_left, holds_double_iff, not_holds_text, hresult, false_or]

/-- Months and years are finite when the days are. -/
theorem isFinite_monthsHeld {x : Float} (h : x.isFinite = true) :
    (x / Formula.Context.daysPerMonth).isFinite = true := by
  have hmonth : Binary.ofFloat Formula.Context.daysPerMonth =
      .finite false 8568098291072369 (-48) := by decide +kernel
  exact Binary.isFinite_div h hmonth (by norm_num)

theorem isFinite_yearsHeld {x : Float} (h : x.isFinite = true) :
    (x / Formula.Context.daysPerYear).isFinite = true := by
  have hyear : Binary.ofFloat Formula.Context.daysPerYear =
      .finite false 6425545952722944 (-44) := by decide +kernel
  exact Binary.isFinite_div h hyear (by norm_num)

theorem IsOf.allFinite_iff {p : Preview} {r : PreviewRequest} {now : Moment} {currency : Text}
    (h : p.IsOf r now currency) :
    p.payload.AllFinite ↔ r.amount.isFinite = true ∧ r.daysHeld.isFinite = true := by
  have hamount : p.context.amount = r.amount := by rw [h.context]; rfl
  have hdays : p.context.daysHeld = r.daysHeld := by rw [h.context]; rfl
  have hmonths : p.context.monthsHeld = r.daysHeld / Formula.Context.daysPerMonth := by
    rw [h.context]
    rfl
  have hyears : p.context.yearsHeld = r.daysHeld / Formula.Context.daysPerYear := by
    rw [h.context]
    rfl
  simp only [Datum.AllFinite, holds_payload_iff, hamount, hdays, hmonths, hyears]
  refine ⟨fun hall => ⟨hall _ (.inl (.inl rfl)), hall _ (.inl (.inr (.inl rfl)))⟩, ?_⟩
  rintro ⟨ha, hd⟩ x ((rfl | rfl | rfl | rfl) | hx)
  · exact ha
  · exact hd
  · exact isFinite_monthsHeld hd
  · exact isFinite_yearsHeld hd
  · exact h.result x hx

section

variable {body : List (Datum × Datum)} {now : Moment} {currency : Text} {p : Preview}

theorem exists_isOf_of_yields (h : Yields (answer body (.ok now) currency) (.ok p)) :
    ∃ r, PreviewRequest.ofBody body = .ok r ∧ p.IsOf r now currency := by
  cases hbody : PreviewRequest.ofBody body with
  | error f => cases h.unique (yields_answer_of_error hbody (.ok now) currency)
  | ok r =>
      obtain ⟨p', hp', hyields⟩ := exists_answer hbody now currency
      obtain rfl := Except.ok.inj (h.unique hyields)
      exact ⟨r, rfl, hp'⟩

theorem allFinite_iff_of_yields (h : Yields (answer body (.ok now) currency) (.ok p)) :
    p.payload.AllFinite ↔ ¬ (Datum.field body "amount").ReadsNonFinite ∧
      ¬ (Datum.field body "days_held").ReadsNonFinite := by
  obtain ⟨r, hr, hp⟩ := exists_isOf_of_yields h
  obtain ⟨hamount, hdays⟩ := PreviewRequest.numbers_of_ofBody hr
  rw [hp.allFinite_iff,
    PreviewRequest.isFinite_number_iff hamount (by decide +kernel),
    PreviewRequest.isFinite_number_iff hdays (by decide +kernel)]

theorem exists_yields (h : ∀ r, ¬ PreviewRequest.IsRefused body r) (now : Moment)
    (currency : Text) : ∃ p, Yields (answer body (.ok now) currency) (.ok p) := by
  have hsound := PreviewRequest.sound_ofBody body
  cases hbody : PreviewRequest.ofBody body with
  | error f =>
      rw [hbody] at hsound
      obtain ⟨r, -, hr⟩ := hsound
      exact absurd hr (h r)
  | ok r =>
      obtain ⟨p, -, hyields⟩ := exists_answer hbody now currency
      exact ⟨p, hyields⟩

theorem isDocument_prettyText_iff (p : Preview) :
    Json.IsDocument (Command.prettyText p.payload).toList ↔ p.payload.AllFinite := by
  obtain ⟨s, hs, hdocument⟩ := p.isJson_payload.exists_pretty p.holdsOverlong_payload
  rw [Command.prettyText, hs]
  exact hdocument

/-- All numbers of a preview are finite, and its text is a JSON document, exactly when neither number
of the request is read as a double that is not finite. The result is finite in any case. The text is
what the command prints for arguments that make the request. -/
theorem payload_isDocument_iff (h : Yields (answer body (.ok now) currency) (.ok p)) :
    (p.payload.AllFinite ↔ ¬ (Datum.field body "amount").ReadsNonFinite ∧
      ¬ (Datum.field body "days_held").ReadsNonFinite) ∧
    (Json.IsDocument (Command.prettyText p.payload).toList ↔ p.payload.AllFinite) ∧
    (∀ x, p.outcome = .ok x → x.isFinite = true) ∧
    ∀ (w : Command.Surroundings) (g : Command.Given), w.now = now → Command.previewBody g = body →
      Command.previewCurrency g = currency → g.isSet "--json" = true →
      Command.runPreview w g = .printed p.isOk [Command.prettyText p.payload] := by
  obtain ⟨r, -, hp⟩ := exists_isOf_of_yields h
  refine ⟨allFinite_iff_of_yields h, isDocument_prettyText_iff p, hp.result, ?_⟩
  rintro w g rfl rfl rfl hjson
  unfold Command.runPreview
  rw [h.result_eq]
  exact congrArg (Command.Outcome.printed p.isOk) (if_pos hjson)

end

def sampleRequest (amount : Text) : List (Datum × Datum) :=
  [(.text "formula", .text "amount"), (.text "amount", .text amount)]

theorem exists_yields_sampleRequest (amount : Text) :
    ∃ p, Yields (answer (sampleRequest amount) (.ok .epoch) "INR") (.ok p) := by
  have hamount : Datum.field (sampleRequest amount) "amount" = .text amount := rfl
  have hdays : Datum.field (sampleRequest amount) "days_held" = .null := rfl
  refine exists_yields (PreviewRequest.not_isRefused ?_ ?_ rfl rfl) _ _
  · rw [hamount]
    nofun
  · rw [hdays]
    nofun

theorem payload_isDocument_of_2500 :
    ∃ p, Yields (answer (sampleRequest "2500") (.ok .epoch) "INR") (.ok p) ∧
      p.payload.AllFinite ∧ Json.IsDocument (Command.prettyText p.payload).toList := by
  obtain ⟨p, hp⟩ := exists_yields_sampleRequest "2500"
  obtain ⟨hfinite, hdocument, -⟩ := payload_isDocument_iff hp
  have hread : (Datum.text "2500").toFloat = .ok (Numeral.toFloat ⟨false, [2, 5, 0, 0], [], 0⟩) := rfl
  have hall : p.payload.AllFinite := by
    refine hfinite.2 ⟨?_, nofun⟩
    rintro ⟨x, hx, hne⟩
    obtain rfl := Except.ok.inj (hread.symm.trans hx)
    exact absurd hne (by decide +kernel)
  exact ⟨p, hp, hall, hdocument.2 hall⟩

/-- The text that names no number is read as a double, and the preview has it. -/
theorem payload_not_isDocument_of_nan :
    ∃ p, Yields (answer (sampleRequest "nan") (.ok .epoch) "INR") (.ok p) ∧
      ¬ p.payload.AllFinite ∧ ¬ Json.IsDocument (Command.prettyText p.payload).toList := by
  obtain ⟨p, hp⟩ := exists_yields_sampleRequest "nan"
  have hnan : (Datum.text "nan").ReadsNonFinite := ⟨Binary.toFloat .nan, rfl, by decide +kernel⟩
  have hall : ¬ p.payload.AllFinite := fun hall => ((allFinite_iff_of_yields hp).1 hall).1 hnan
  exact ⟨p, hp, hall, fun h => hall ((isDocument_prettyText_iff p).1 h)⟩

end Preview

end Appraisal
