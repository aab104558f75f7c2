import Appraisal.Journal.Session
import Appraisal.Proofs.Journal.Effects

/-!
# Blocks of a session

A program assigns fields, clears them and opens blocks, nested to any depth; each block ends as its
body does, with a failure or without one. However it ends, it gives the fields that it has bound the
values they had before it, and leaves all others as its body did. Run in a session, where the open
blocks stand on a stack, or as a computation that writes a journal, a program does the same. The main
statement: `block_gives_back`.
-/

namespace Appraisal.Journal

variable {ε : Type}

/-! ### Bindings that are given back -/

theorem BoundField.ofName?_eq_some_iff {name : Text} {g : BoundField} :
    ofName? name = some g ↔ name = g.name := by
  constructor
  · intro h
    have hname := List.find?_some h
    exact (of_decide_eq_true hname).symm
  · rintro rfl
    cases g <;> rfl

def Binds (fields : List (Text × Datum)) (g : BoundField) : Prop :=
  ∃ v, ((g.name : Text), v) ∈ fields ∧ v.isNull = false

/-- Names of no field and null bind nothing. -/
theorem exists_mem_ofFields_iff {fields : List (Text × Datum)} {g : BoundField} :
    (∃ f ∈ Assignments.ofFields fields, f.2.isSome = true ∧ f.1 = g) ↔ Binds fields g := by
  unfold Assignments.ofFields
  constructor
  · rintro ⟨f, hf, hsome, rfl⟩
    obtain ⟨⟨name, v⟩, hmem, hgives⟩ := List.mem_filterMap.1 hf
    obtain ⟨b, hb, rfl⟩ := Option.map_eq_some_iff.1 hgives
    obtain rfl : name = b.name := BoundField.ofName?_eq_some_iff.1 hb
    refine ⟨v, hmem, ?_⟩
    cases hv : v.isNull with
    | true => simp [hv] at hsome
    | false => rfl
  · rintro ⟨v, hmem, hv⟩
    refine ⟨(g, some v), List.mem_filterMap.2 ⟨_, hmem, ?_⟩, rfl, rfl⟩
    rw [BoundField.ofName?_eq_some_iff.2 rfl, hv]
    rfl

namespace Bindings

variable {b : Bindings} {fields : Assignments} {g : BoundField}

theorem restore_saved_of_not_mem (c : Bindings)
    (h : ¬ ∃ f ∈ fields, f.2.isSome = true ∧ f.1 = g) : c.restore (b.saved fields) g = c g := by
  induction fields generalizing c with
  | nil => rfl
  | cons f fs ih =>
      rw [List.exists_mem_cons_iff, not_or] at h
      by_cases hf : f.2.isSome = true
      · rw [saved_cons_of_some hf]
        refine (ih (c.update f.1 (b f.1)) h.2).trans (if_neg (fun heq => h.1 ⟨hf, heq.symm⟩))
      · rw [saved_cons_of_none hf]
        exact ih c h.2

theorem restore_saved_of_mem (c : Bindings)
    (h : ∃ f ∈ fields, f.2.isSome = true ∧ f.1 = g) : c.restore (b.saved fields) g = b g := by
  induction fields generalizing c with
  | nil => simp at h
  | cons f fs ih =>
      by_cases hrest : ∃ f ∈ fs, f.2.isSome = true ∧ f.1 = g
      · by_cases hf : f.2.isSome = true
        · rw [saved_cons_of_some hf]
          exact ih (c.update f.1 (b f.1)) hrest
        · rw [saved_cons_of_none hf]
          exact ih c hrest
      · rw [List.exists_mem_cons_iff] at h
        obtain ⟨hf, rfl⟩ := h.resolve_right hrest
        rw [saved_cons_of_some hf]
        exact (restore_saved_of_not_mem (c.update f.1 (b f.1)) hrest).trans (if_pos rfl)

end Bindings

theorem Session.closeBlock?_eq_some {s : Session} {saved : Assignments} {blocks : List Assignments}
    (h : s.blocks = saved :: blocks) :
    s.closeBlock? = some { s with bindings := s.bindings.restore saved, blocks } := by
  unfold closeBlock?
  rw [h]

/-! ### Programs -/

inductive Program (ε : Type)
  | skip
  | fail (e : ε)
  | assign (fields : Assignments)
  | clear
  | block (fields : List (Text × Datum)) (body : Program ε)
  | seq (first second : Program ε)
  /-- Runs the second part if the first one fails. -/
  | recover (body handler : Program ε)

namespace Program

def exec : Program ε → Session → Except ε Unit × Session
  | .skip, s => (.ok (), s)
  | .fail e, s => (.error e, s)
  | .assign fields, s => (.ok (), s.assign fields)
  | .clear, s => (.ok (), s.clear)
  | .block fields body, s =>
      let ended := body.exec (s.openBlock (.ofFields fields))
      (ended.1, ended.2.closeBlock?.getD ended.2)
  | .seq first second, s =>
      match first.exec s with
      | (.ok _, s') => second.exec s'
      | (.error e, s') => (.error e, s')
  | .recover body handler, s =>
      match body.exec s with
      | (.ok _, s') => (.ok (), s')
      | (.error _, s') => handler.exec s'

def journaled : Program ε → Journaled ε Unit
  | .skip => pure ()
  | .fail e => throw e
  | .assign fields => modify (fun j => { j with bindings := j.bindings.assign fields })
  | .clear => modify (fun j => { j with bindings := .empty })
  | .block fields body => Journaled.bound (.ofFields fields) body.journaled
  | .seq first second => do
      first.journaled
      second.journaled
  | .recover body handler => tryCatch body.journaled (fun _ => handler.journaled)

/-- Every block that a program opens has been closed when it ends. -/
theorem blocks_exec (p : Program ε) (s : Session) :
    (p.exec s).2.blocks = s.blocks ∧ (p.exec s).2.sink = s.sink := by
  induction p generalizing s with
  | skip => exact ⟨rfl, rfl⟩
  | fail e => exact ⟨rfl, rfl⟩
  | assign fields => exact ⟨rfl, rfl⟩
  | clear => exact ⟨rfl, rfl⟩
  | block fields body ih =>
      obtain ⟨hblocks, hsink⟩ := ih (s.openBlock (.ofFields fields))
      let ended := (body.exec (s.openBlock (.ofFields fields))).2
      show (ended.closeBlock?.getD ended).blocks = s.blocks ∧
        (ended.closeBlock?.getD ended).sink = s.sink
      rw [Session.closeBlock?_eq_some hblocks]
      exact ⟨rfl, hsink⟩
  | seq first second ihfirst ihsecond =>
      unfold exec
      obtain ⟨hblocks, hsink⟩ := ihfirst s
      split <;> rename_i heq <;> rw [heq] at hblocks hsink
      · exact ⟨(ihsecond _).1.trans hblocks, (ihsecond _).2.trans hsink⟩
      · exact ⟨hblocks, hsink⟩
  | recover body handler ihbody ihhandler =>
      unfold exec
      obtain ⟨hblocks, hsink⟩ := ihbody s
      split <;> rename_i heq <;> rw [heq] at hblocks hsink
      · exact ⟨hblocks, hsink⟩
      · exact ⟨(ihhandler _).1.trans hblocks, (ihhandler _).2.trans hsink⟩

def closed (s : Session) (fields : List (Text × Datum)) (body : Program ε) : Session :=
  let ended := (body.exec (s.openBlock (.ofFields fields))).2
  { ended with
    bindings := ended.bindings.restore (s.bindings.saved (.ofFields fields)), blocks := s.blocks }

theorem closeBlock?_exec (s : Session) (fields : List (Text × Datum)) (body : Program ε) :
    (body.exec (s.openBlock (.ofFields fields))).2.closeBlock? = some (closed s fields body) :=
  Session.closeBlock?_eq_some (blocks_exec body (s.openBlock (.ofFields fields))).1

theorem exec_block (s : Session) (fields : List (Text × Datum)) (body : Program ε) :
    (block fields body).exec s =
      ((body.exec (s.openBlock (.ofFields fields))).1, closed s fields body) := by
  simp only [exec, closeBlock?_exec, Option.getD_some]

/-- A program ends alike in a session and as a computation, and leaves the same values bound. -/
theorem run_journaled (p : Program ε) {s : Session} {j : JournalState}
    (h : j.bindings = s.bindings) :
    p.journaled.run j = ((p.exec s).1, ⟨(p.exec s).2.bindings, j.records⟩) := by
  induction p generalizing s j with
  | skip => exact Prod.ext rfl (by rw [exec, ← h]; rfl)
  | fail e => exact Prod.ext rfl (by rw [exec, ← h]; rfl)
  | assign fields => exact Prod.ext rfl (by rw [exec, Session.assign, ← h]; rfl)
  | clear => rfl
  | block fields body ih =>
      have hbody := ih (s := s.openBlock (.ofFields fields))
        (j := { j with bindings := j.bindings.assign (.ofFields fields) })
        (by rw [h]; rfl)
      rw [exec_block]
      unfold journaled
      rw [Journaled.run_bound, hbody, h]
      rfl
  | seq first second ihfirst ihsecond =>
      have hfirst := ihfirst h
      unfold journaled exec
      cases hrun : first.exec s with
      | mk r s' =>
          rw [hrun] at hfirst
          cases r with
          | ok _ => exact (Journaled.run_bind_ok hfirst).trans (ihsecond rfl)
          | error e => exact Journaled.run_bind_error hfirst
  | recover body handler ihbody ihhandler =>
      have hbody := ihbody h
      unfold journaled exec
      cases hrun : body.exec s with
      | mk r s' =>
          rw [hrun] at hbody
          cases r with
          | ok _ => exact Journaled.run_tryCatch_ok hbody
          | error e => exact (Journaled.run_tryCatch_error hbody).trans (ihhandler rfl)

/-- A block ends as its body does, and every block that its body opens has been closed by then. The
fields that it gave a value have the values from before it, and all others those that its body left.
As a computation the block does the same. -/
theorem block_gives_back (s : Session) (fields : List (Text × Datum)) (body : Program ε) :
    ∃ s', (block fields body).exec s = ((body.exec (s.openBlock (.ofFields fields))).1, s') ∧
      (body.exec (s.openBlock (.ofFields fields))).2.closeBlock? = some s' ∧
      s'.blocks = s.blocks ∧ s'.sink = s.sink ∧
      (∀ g, Binds fields g → s'.bindings g = s.bindings g) ∧
      (∀ g, ¬ Binds fields g →
        s'.bindings g = (body.exec (s.openBlock (.ofFields fields))).2.bindings g) ∧
      ∀ records, (Journaled.bound (.ofFields fields) body.journaled).run ⟨s.bindings, records⟩ =
        ((body.exec (s.openBlock (.ofFields fields))).1, ⟨s'.bindings, records⟩) := by
  refine ⟨closed s fields body, exec_block s fields body, closeBlock?_exec s fields body, rfl,
    (blocks_exec body (s.openBlock (.ofFields fields))).2, fun g hg => ?_, fun g hg => ?_,
    fun records => ?_⟩
  · exact Bindings.restore_saved_of_mem _ (exists_mem_ofFields_iff.2 hg)
  · exact Bindings.restore_saved_of_not_mem _ (fun hmem => hg (exists_mem_ofFields_iff.1 hmem))
  · have hrun := run_journaled (block fields body) (s := s) (j := ⟨s.bindings, records⟩) rfl
    rwa [exec_block] at hrun

end Program

end Appraisal.Journal
