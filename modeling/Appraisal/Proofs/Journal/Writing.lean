import Mathlib.Data.List.Forall2
import Appraisal.Journal.Writing
import Appraisal.Proofs.Outcome

/-!
# Outcomes of computations that write a journal

What is written does not change what a computation gives. `Yields x r` says that `x` ends with `r`
whatever has been written and bound before; it is kept by everything that such computations are
built from.
-/

namespace Appraisal.Journaled

open Outcome

variable {ε δ α β : Type}

/-- The computation ends with the same outcome from every state of the journal. -/
def Yields (x : Journaled ε α) (r : Except ε α) : Prop := ∀ s, (x.run s).1 = r

theorem Yields.result_eq {x : Journaled ε α} {r : Except ε α} (h : Yields x r) : x.result = r :=
  h empty

theorem Yields.unique {x : Journaled ε α} {r r' : Except ε α} (h : Yields x r) (h' : Yields x r') :
    r = r' := (h empty).symm.trans (h' empty)

theorem yields_pure (a : α) : Yields (pure a : Journaled ε α) (.ok a) := fun _ => rfl

theorem yields_throw (e : ε) : Yields (throw e : Journaled ε α) (.error e) := fun _ => rfl

theorem yields_lift (x : Except ε α) : Yields (lift x) x := fun _ => rfl

theorem yields_note (level : Int) (logger message : Text) (fields : List (Text × Datum))
    (report : Option Report) :
    Yields (note level logger message fields report : Journaled ε Unit) (.ok ()) := fun _ => rfl

theorem run_outcome (x : Journaled ε α) (s : JournalState) :
    (outcome x : Journaled δ (Except ε α)).run s = (.ok (x.run s).1, (x.run s).2) := rfl

theorem run_mapFault (f : ε → δ) (x : Journaled ε α) (s : JournalState) :
    (mapFault f x).run s = ((x.run s).1.mapError f, (x.run s).2) := rfl

theorem run_bind_ok {x : Journaled ε α} {f : α → Journaled ε β} {s s' : JournalState} {a : α}
    (h : x.run s = (.ok a, s')) : (x >>= f).run s = (f a).run s' := by
  have hrun : (x >>= f).run s = ExceptT.bindCont f (x.run s).1 (x.run s).2 := rfl
  rw [hrun, h]
  rfl

theorem run_bind_error {x : Journaled ε α} {f : α → Journaled ε β} {s s' : JournalState} {e : ε}
    (h : x.run s = (.error e, s')) : (x >>= f).run s = (.error e, s') := by
  have hrun : (x >>= f).run s = ExceptT.bindCont f (x.run s).1 (x.run s).2 := rfl
  rw [hrun, h]
  rfl

/-- What is caught depends only on what the computation gives where it starts. -/
theorem run_tryCatch_congr {x y : Journaled ε α} {s t : JournalState} (h : x.run s = y.run t)
    (handler : ε → Journaled ε α) :
    (tryCatch x handler).run s = (tryCatch y handler).run t := by
  have hrun (z : Journaled ε α) (s : JournalState) : (tryCatch z handler).run s =
      (tryCatch (ExceptT.mk fun _ => z.run s) handler).run empty := rfl
  rw [hrun, h, ← hrun]

theorem run_tryCatch_ok {x : Journaled ε α} {handler : ε → Journaled ε α} {s s' : JournalState}
    {a : α} (h : x.run s = (.ok a, s')) : (tryCatch x handler).run s = (.ok a, s') :=
  run_tryCatch_congr (y := pure a) h handler

theorem run_tryCatch_error {x : Journaled ε α} {handler : ε → Journaled ε α}
    {s s' : JournalState} {e : ε} (h : x.run s = (.error e, s')) :
    (tryCatch x handler).run s = (handler e).run s' :=
  run_tryCatch_congr (y := throw e) h handler

theorem run_bind_eq_ok_iff {x : Journaled ε α} {f : α → Journaled ε β} {s s'' : JournalState}
    {b : β} : (x >>= f).run s = (.ok b, s'') ↔
      ∃ a s', x.run s = (.ok a, s') ∧ (f a).run s' = (.ok b, s'') := by
  obtain ⟨r, s', hx⟩ : ∃ r s', x.run s = (r, s') := ⟨_, _, rfl⟩
  constructor
  · intro h
    cases r with
    | error e =>
        rw [run_bind_error hx] at h
        cases h
    | ok a => exact ⟨a, s', hx, by rwa [run_bind_ok hx] at h⟩
  · rintro ⟨a, s', hx', hf⟩
    rw [run_bind_ok hx', hf]

/-- A run that has been evaluated down to something of its value gives a value. -/
theorem exists_of_map_toOption {x : Journaled ε α} {s : JournalState} {f : α → β} {b : β}
    (h : (x.run s).1.toOption.map f = some b) : ∃ a s', x.run s = (.ok a, s') ∧ f a = b := by
  cases hrun : x.run s with
  | mk r s' =>
      rw [hrun] at h
      cases r with
      | error e => simp [Except.toOption] at h
      | ok a => exact ⟨a, s', rfl, Option.some.inj h⟩

/-- The outcome is that of what comes next, if this is one and the same for every value that can
come before it. -/
theorem yields_bind_of_run {x : Journaled ε α} {f : α → Journaled ε β} {r : Except ε β}
    (h : ∀ s, ∃ a s', x.run s = (.ok a, s') ∧ Yields (f a) r) : Yields (x >>= f) r := by
  intro s
  obtain ⟨a, s', hx, hf⟩ := h s
  rw [run_bind_ok hx, hf s']

theorem Yields.bind {x : Journaled ε α} {r : Except ε α} {f : α → Journaled ε β}
    {g : α → Except ε β} (hx : Yields x r) (hf : ∀ a, r = .ok a → Yields (f a) (g a)) :
    Yields (x >>= f) (r >>= g) := by
  intro s
  have hs : x.run s = (r, (x.run s).2) := Prod.ext (hx s) rfl
  cases r with
  | error e => rw [run_bind_error hs, error_bind]
  | ok a => rw [run_bind_ok hs, ok_bind, hf a rfl]

theorem Yields.bound {x : Journaled ε α} {r : Except ε α} (h : Yields x r)
    (fields : Journal.Assignments) : Yields (bound fields x) r := fun _ => h _

theorem Yields.outcome {x : Journaled ε α} {r : Except ε α} (h : Yields x r) :
    Yields (outcome x : Journaled δ (Except ε α)) (.ok r) :=
  fun s => congrArg Except.ok (h s)

theorem Yields.mapFault {x : Journaled ε α} {r : Except ε α} (h : Yields x r) (f : ε → δ) :
    Yields (mapFault f x) (r.mapError f) :=
  fun s => congrArg (Except.mapError f) (h s)

theorem yields_mapM {f : α → Journaled ε β} {g : α → Except ε β} (h : ∀ x, Yields (f x) (g x))
    (xs : List α) : Yields (xs.mapM f) (xs.mapM g) := by
  induction xs with
  | nil => exact yields_pure []
  | cons x xs ih =>
      rw [List.mapM_cons, List.mapM_cons]
      exact (h x).bind (fun y _ => ih.bind (fun ys _ => yields_pure (y :: ys)))

/-- Computations that give a value each give all their values when they are made one after the
other. -/
theorem exists_yields_mapM {f : α → Journaled ε β} {xs : List α}
    (h : ∀ x ∈ xs, ∃ y, Yields (f x) (.ok y)) :
    ∃ ys, Yields (xs.mapM f) (.ok ys) ∧ List.Forall₂ (fun x y => Yields (f x) (.ok y)) xs ys := by
  induction xs with
  | nil => exact ⟨[], yields_pure [], .nil⟩
  | cons x xs ih =>
      rw [List.forall_mem_cons] at h
      obtain ⟨y, hy⟩ := h.1
      obtain ⟨ys, hys, hall⟩ := ih h.2
      refine ⟨y :: ys, ?_, .cons hy hall⟩
      rw [List.mapM_cons]
      refine hy.bind (g := fun _ => .ok (y :: ys)) (fun y' hy' => ?_)
      obtain rfl := Except.ok.inj hy'
      refine hys.bind (g := fun _ => .ok (y :: ys)) (fun ys' hys' => ?_)
      obtain rfl := Except.ok.inj hys'
      exact yields_pure _

/-! ### Settled outcomes -/

/-- The computation ends with one outcome from every state: a value with a property, or a fault that
is allowed. -/
def Settles (allowed : ε → Prop) (P : α → Prop) (x : Journaled ε α) : Prop :=
  ∃ r, Yields x r ∧ Sound allowed P r

variable {allowed : ε → Prop} {P : α → Prop} {Q : β → Prop}

theorem Yields.settles {x : Journaled ε α} {r : Except ε α} (h : Yields x r)
    (hr : Sound allowed P r) : Settles allowed P x := ⟨r, h, hr⟩

theorem settles_pure {a : α} (h : P a) : Settles allowed P (pure a) := (yields_pure a).settles h

theorem settles_lift {x : Except ε α} (h : Sound allowed P x) : Settles allowed P (lift x) :=
  (yields_lift x).settles h

theorem settles_note {level : Int} {logger message : Text} {fields : List (Text × Datum)}
    {report : Option Report} :
    Settles allowed (fun _ => True) (note level logger message fields report : Journaled ε Unit) :=
  (yields_note level logger message fields report).settles trivial

theorem Settles.bind {x : Journaled ε α} {f : α → Journaled ε β} (hx : Settles allowed P x)
    (hf : ∀ a, P a → Settles allowed Q (f a)) : Settles allowed Q (x >>= f) := by
  obtain ⟨r, hy, hr⟩ := hx
  cases r with
  | error e => exact ⟨_, hy.bind (g := fun _ => .error e) (fun a ha => by simp at ha), hr⟩
  | ok a =>
      obtain ⟨r', hy', hr'⟩ := hf a hr
      refine ⟨_, hy.bind (g := fun _ => r') (fun a' ha' => ?_), hr'⟩
      rw [← Except.ok.inj ha']
      exact hy'

theorem Settles.bound {x : Journaled ε α} (h : Settles allowed P x) (fields : Journal.Assignments) :
    Settles allowed P (Journaled.bound fields x) := by
  obtain ⟨r, hy, hr⟩ := h
  exact ⟨r, hy.bound fields, hr⟩

/-- The outcome of a settled computation as a value. -/
theorem Settles.outcome {x : Journaled ε α} (h : Settles allowed P x) (allowed' : δ → Prop) :
    Settles allowed' (Sound allowed P) (Journaled.outcome x) := by
  obtain ⟨r, hy, hr⟩ := h
  exact ⟨.ok r, hy.outcome, hr⟩

theorem Settles.foldlM {γ : Type} {f : β → γ → Journaled ε β} {xs : List γ} {b : β}
    (hf : ∀ b c, Settles allowed (fun _ => True) (f b c)) :
    Settles allowed (fun _ => True) (xs.foldlM f b) := by
  induction xs generalizing b with
  | nil => exact settles_pure trivial
  | cons c cs ih =>
      rw [List.foldlM_cons]
      exact (hf b c).bind (fun b' _ => ih)

theorem Settles.result {x : Journaled ε α} (h : Settles allowed P x) :
    Yields x x.result ∧ Sound allowed P x.result := by
  obtain ⟨r, hy, hr⟩ := h
  rw [hy.result_eq]
  exact ⟨hy, hr⟩

/-! ### Values, if there are any -/

/-- Whatever the state of the journal, a value that the computation gives has a property. -/
def Ensures (P : α → Prop) (x : Journaled ε α) : Prop := ∀ s a s', x.run s = (.ok a, s') → P a

theorem ensures_true (x : Journaled ε α) : Ensures (fun _ => True) x := fun _ _ _ _ => trivial

theorem ensures_pure {a : α} (h : P a) : Ensures P (pure a : Journaled ε α) := by
  intro s b s' hrun
  obtain ⟨hb, -⟩ := Prod.mk.inj (show (Except.ok a, s) = (.ok b, s') from hrun)
  rwa [← Except.ok.inj hb]

theorem ensures_throw (e : ε) : Ensures P (throw e : Journaled ε α) := by
  intro s a s' hrun
  cases hrun

theorem ensures_lift {x : Except ε α} (h : ∀ a, x = .ok a → P a) : Ensures P (lift x) := by
  intro s a s' hrun
  exact h a (Prod.mk.inj (show (x, s) = (.ok a, s') from hrun)).1

theorem Ensures.bind {x : Journaled ε α} {f : α → Journaled ε β} (hx : Ensures P x)
    (hf : ∀ a, P a → Ensures Q (f a)) : Ensures Q (x >>= f) := by
  intro s b s'' hrun
  obtain ⟨a, s', ha, hb⟩ := run_bind_eq_ok_iff.1 hrun
  exact hf a (hx s a s' ha) s' b s'' hb

theorem Ensures.bound {x : Journaled ε α} (hx : Ensures P x) (fields : Journal.Assignments) :
    Ensures P (Journaled.bound fields x) := by
  intro s a s' hrun
  obtain ⟨ha, -⟩ := Prod.mk.inj hrun
  exact hx _ a _ (Prod.ext ha rfl)

theorem Ensures.outcome {x : Journaled ε α} (hx : Ensures P x) :
    Ensures (fun r => ∀ a, r = .ok a → P a) (Journaled.outcome x : Journaled δ (Except ε α)) := by
  intro s r s' hrun a hr
  obtain ⟨hx', -⟩ := Prod.mk.inj hrun
  exact hx s a _ (Prod.ext ((Except.ok.inj hx').trans hr) rfl)

theorem Ensures.mapFault {x : Journaled ε α} (hx : Ensures P x) (f : ε → δ) :
    Ensures P (Journaled.mapFault f x) := by
  intro s a s' hrun
  obtain ⟨ha, -⟩ := Prod.mk.inj hrun
  exact hx s a _ (Prod.ext (mapError_eq_ok_iff.1 ha) rfl)

end Appraisal.Journaled
