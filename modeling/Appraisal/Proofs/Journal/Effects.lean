import Appraisal.Proofs.Journal.Writing

/-!
# What a computation writes

`Writes x r w` says that `x` ends with `r`, leaves the bound fields as it found them and puts the
records `w b` in front of those that are there, the last one first, when `b` are the bound fields. A
computation that binds fields gives them back, whatever it does in between.
-/

namespace Appraisal

namespace Journal.Bindings

theorem assign_of_not_mem {fields : Assignments} {g : BoundField} (b : Bindings)
    (h : ∀ f ∈ fields, f.2.isSome = true → f.1 ≠ g) : b.assign fields g = b g := by
  induction fields generalizing b with
  | nil => rfl
  | cons f fs ih =>
      rw [List.forall_mem_cons] at h
      have hstep : b.assign (f :: fs) = (if f.2.isSome then b.update f.1 f.2 else b).assign fs := rfl
      rw [hstep, ih _ h.2]
      by_cases hf : f.2.isSome = true
      · rw [if_pos hf]
        exact if_neg (fun heq => h.1 hf heq.symm)
      · rw [if_neg hf]

theorem saved_cons_of_some {b : Bindings} {f : BoundField × Option Datum} {fs : Assignments}
    (hf : f.2.isSome = true) : b.saved (f :: fs) = (f.1, b f.1) :: b.saved fs := by
  have hfilter : (f :: fs).filter (fun f => f.2.isSome) = f :: fs.filter (fun f => f.2.isSome) := by
    simp [hf]
  unfold saved
  rw [hfilter]
  rfl

theorem saved_cons_of_none {b : Bindings} {f : BoundField × Option Datum} {fs : Assignments}
    (hf : ¬ f.2.isSome = true) : b.saved (f :: fs) = b.saved fs := by
  have hfilter : (f :: fs).filter (fun f => f.2.isSome) = fs.filter (fun f => f.2.isSome) := by
    simp [hf]
  unfold saved
  rw [hfilter]

/-- What has been saved of some fields restores them in any bindings that agree on the others. -/
theorem restore_of_agrees {b : Bindings} {fields : Assignments} {c : Bindings}
    (h : ∀ g, (∀ f ∈ fields, f.2.isSome = true → f.1 ≠ g) → c g = b g) :
    c.restore (b.saved fields) = b := by
  induction fields generalizing c with
  | nil =>
      funext g
      exact h g (fun f hf => by simp at hf)
  | cons f fs ih =>
      by_cases hf : f.2.isSome = true
      · rw [saved_cons_of_some hf]
        refine ih (c := c.update f.1 (b f.1)) (fun g hg => ?_)
        by_cases hgf : g = f.1
        · rw [hgf]
          exact if_pos rfl
        · have hcg : c.update f.1 (b f.1) g = c g := if_neg hgf
          rw [hcg]
          apply h g
          rw [List.forall_mem_cons]
          exact ⟨fun _ heq => hgf heq.symm, hg⟩
      · rw [saved_cons_of_none hf]
        refine ih (fun g hg => ?_)
        apply h g
        rw [List.forall_mem_cons]
        exact ⟨fun hsome => absurd hsome hf, hg⟩

/-- A block gives the fields that it binds back. -/
theorem restore_assign (b : Bindings) (fields : Assignments) :
    (b.assign fields).restore (b.saved fields) = b :=
  restore_of_agrees (fun _ hg => assign_of_not_mem b hg)

end Journal.Bindings

namespace Journaled

open Journal

variable {ε δ α β : Type}

/-- The computation ends with `r`, keeps the bound fields and writes records that depend on nothing
but these. -/
def Writes (x : Journaled ε α) (r : Except ε α) (written : Bindings → List Record) : Prop :=
  ∀ s, x.run s = (r, ⟨s.bindings, written s.bindings ++ s.records⟩)

variable {x : Journaled ε α} {f : α → Journaled ε β} {w w' : Bindings → List Record}

theorem writes_pure (a : α) : Writes (pure a : Journaled ε α) (.ok a) (fun _ => []) := fun _ => rfl

theorem writes_lift {x r : Except ε α} (h : x = r) : Writes (lift x) r (fun _ => []) := by
  intro s
  rw [h]
  rfl

theorem writes_note (level : Int) (logger message : Text) (fields : List (Text × Datum)) :
    Writes (note level logger message fields : Journaled ε Unit) (.ok ()) (fun b =>
      [{ level, logger := loggerName logger, message, bindings := b, fields, report := none }]) :=
  fun _ => rfl

theorem Writes.bind {a : α} {r : Except ε β} (hx : Writes x (.ok a) w) (hf : Writes (f a) r w') :
    Writes (x >>= f) r (fun b => w' b ++ w b) := by
  intro s
  rw [run_bind_ok (hx s), hf, List.append_assoc]

theorem Writes.bind_error {e : ε} (hx : Writes x (.error e) w) :
    Writes (x >>= f) (.error e) w := fun s => run_bind_error (hx s)

theorem run_bound (fields : Assignments) (x : Journaled ε α) (s : JournalState) :
    (bound fields x).run s =
      ((x.run ⟨s.bindings.assign fields, s.records⟩).1,
        { (x.run ⟨s.bindings.assign fields, s.records⟩).2 with
          bindings := (x.run ⟨s.bindings.assign fields, s.records⟩).2.bindings.restore
            (s.bindings.saved fields) }) := rfl

theorem Writes.bound {r : Except ε α} (hx : Writes x r w) (fields : Assignments) :
    Writes (bound fields x) r (fun b => w (b.assign fields)) := by
  intro s
  rw [run_bound, hx]
  dsimp only
  rw [Bindings.restore_assign]

theorem Writes.yields {r : Except ε α} (hx : Writes x r w) : Yields x r := fun s => by rw [hx s]

theorem Writes.outcome {r : Except ε α} (hx : Writes x r w) :
    Writes (outcome x : Journaled δ (Except ε α)) (.ok r) w := by
  intro s
  rw [run_outcome, hx]

end Journaled

end Appraisal
