import Appraisal.Journal.Trace
import Appraisal.Proofs.Digest.Fingerprint
import Appraisal.Proofs.Journal.Writing

/-!
# Outcomes of traced computations

A run is recorded with a fingerprint of its inputs. Inputs that can be written as texts stop a run
only when these cannot be written as bytes; otherwise the outcome is that of the computation.
-/

namespace Appraisal

open Outcome Journaled

namespace Journal.Engine

variable {allowed : Fault → Prop} {α : Type} {P : α → Prop}

theorem sound_fingerprint (e : Engine) {inputs : List (Text × Datum)}
    (h : ∀ i ∈ inputs, ∃ t, Fingerprint.canonical i.2 = .ok t)
    (hrefusal : ∀ t, allowed (.refusal (.unencodable t))) :
    Sound allowed (fun _ => True) (e.fingerprint inputs) := by
  unfold fingerprint
  split
  · trivial
  · obtain ⟨t, ht, -⟩ := @Fingerprint.exists_text e.fields inputs h
    unfold Fingerprint.ofInputs
    rw [ht, ok_bind]
    split
    · trivial
    · exact hrefusal _

/-- A traced computation ends as the computation does, unless the inputs cannot be written as bytes.
-/
theorem settles_traced (e : Engine) {inputs : List (Text × Datum)}
    (h : ∀ i ∈ inputs, ∃ t, Fingerprint.canonical i.2 = .ok t)
    (hrefusal : ∀ t, allowed (.refusal (.unencodable t))) {x : Journaled Fault α}
    (hx : Settles allowed P x) : Settles allowed P (e.traced inputs x) :=
  (settles_lift (e.sound_fingerprint h hrefusal)).bind (fun _ _ =>
    hx.bind (fun _ ha => settles_note.bind (fun _ _ => settles_pure ha)))

theorem yields_traced (e : Engine) (inputs : List (Text × Datum)) {x : Journaled Fault α}
    {r : Except Fault α} (hx : Yields x r) :
    Yields (e.traced inputs x) (e.fingerprint inputs >>= fun _ => r) := by
  refine (yields_lift (e.fingerprint inputs)).bind (g := fun _ => r) (fun _ _ => ?_)
  refine (bind_pure r) ▸ hx.bind (g := fun a => .ok a) (fun a _ => ?_)
  exact (yields_note _ _ _ _ _).bind (g := fun _ => .ok a) (fun _ _ => yields_pure a)

/-- A traced computation gives a value when its inputs have a fingerprint and the computation gives
that value. -/
theorem run_traced_eq_ok_iff {e : Engine} {inputs : List (Text × Datum)} {x : Journaled Fault α}
    {s : JournalState} {a : α} : (∃ s', (e.traced inputs x).run s = (.ok a, s')) ↔
      (∃ f, e.fingerprint inputs = .ok f) ∧ ∃ s', x.run s = (.ok a, s') := by
  unfold traced
  constructor
  · rintro ⟨s', h⟩
    obtain ⟨f, s₁, hlift, h⟩ := run_bind_eq_ok_iff.1 h
    obtain ⟨hf, rfl⟩ := Prod.mk.inj (show (e.fingerprint inputs, s) = (.ok f, s₁) from hlift)
    obtain ⟨b, s₂, hx, h⟩ := run_bind_eq_ok_iff.1 h
    obtain ⟨u, s₃, hnote, h⟩ := run_bind_eq_ok_iff.1 h
    obtain ⟨hb, -⟩ := Prod.mk.inj (show (Except.ok b, s₃) = (.ok a, s') from h)
    rw [Except.ok.inj hb] at hx
    exact ⟨⟨f, hf⟩, s₂, hx⟩
  · rintro ⟨⟨f, hf⟩, s₁, hx⟩
    have hlift : (lift (e.fingerprint inputs) : Journaled Fault String).run s = (.ok f, s) := by
      rw [hf]
      rfl
    rw [run_bind_ok hlift, run_bind_ok hx]
    exact ⟨_, rfl⟩

theorem ensures_traced {e : Engine} {inputs : List (Text × Datum)} {x : Journaled Fault α}
    (hx : Ensures P x) : Ensures P (e.traced inputs x) := by
  intro s a s' hrun
  obtain ⟨-, s₁, h⟩ := run_traced_eq_ok_iff.1 ⟨s', hrun⟩
  exact hx s a s₁ h

/-- Plain inputs have a fingerprint. -/
theorem exists_fingerprint {e : Engine} {inputs : List (Text × Datum)}
    (hfields : ∀ f ∈ e.fields, f.IsPlain)
    (h : ∀ i ∈ inputs, ∃ t, Fingerprint.canonical i.2 = .ok t ∧ t.IsPlain) :
    ∃ f, e.fingerprint inputs = .ok f := by
  unfold fingerprint
  split
  · exact ⟨_, rfl⟩
  · obtain ⟨t, ht, hplain⟩ := @Fingerprint.exists_text e.fields inputs
      (fun i hi => (h i hi).imp (fun _ ht => ht.1))
    have hinputs : ∀ i ∈ inputs, ∀ t, Fingerprint.canonical i.2 = .ok t → t.IsPlain := by
      intro i hi t ht
      obtain ⟨t', ht', hplain'⟩ := h i hi
      rw [ht] at ht'
      rwa [Except.ok.inj ht']
    obtain ⟨s, -, hs⟩ := Fingerprint.exists_ofInputs ht (hplain hfields hinputs)
    exact ⟨_, hs⟩

end Journal.Engine

end Appraisal
