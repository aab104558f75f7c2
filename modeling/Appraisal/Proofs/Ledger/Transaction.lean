import Appraisal.Proofs.Ledger.Storage

/-!
# Transactions

A database keeps the rows of the table and the drafts that wait for a commit. A scope hands drafts
over and commits them; whatever fails on the way is passed on after a rollback. So the table holds
the rows of just the scopes that ended well, and a scope that fails leaves it as it was. This rests
on what a database promises: drafts reach the table by a commit only, all at once, and a rollback
drops them. The scopes of a ledger store are those of a database in memory that keeps these
promises. The main statement: `scopes_are_atomic`.
-/

namespace Appraisal

open Outcome Journaled

/-- A table of postings and the sessions that change it. -/
structure Database (σ : Type) where
  stored : σ → List Posting
  /-- What has been added and neither committed nor rolled back. -/
  waiting : σ → List Draft
  insert : Draft → σ → σ
  flush : σ → Except LedgerError Unit × σ
  commit : σ → Except LedgerError Unit × σ
  rollback : σ → σ
  close : σ → σ

namespace Database

inductive Step
  | add (d : Draft)
  | flush
  | fail (why : Report)

def drafts (steps : List Step) : List Draft :=
  steps.filterMap (fun
    | .add d => some d
    | _ => none)

/-- The steps or their commit can fail with an error: it is raised, or a draft makes no row. -/
inductive CanFail (waiting : List Draft) (steps : List Step) : LedgerError → Prop
  | raised {why : Report} (h : .fail why ∈ steps) : CanFail waiting steps (.abandoned why)
  | refused {d : Draft} {e : LedgerError} (h : d ∈ waiting ++ drafts steps)
      (hrow : Row.ofDraft d = .error e) : CanFail waiting steps e

def rowsOf (steps : List Step) : Except LedgerError Unit → List Posting
  | .ok _ => (drafts steps).filterMap (fun d => (Row.ofDraft d).toOption)
  | .error _ => []

variable {σ : Type}

section Scopes

variable (db : Database σ)

def run : List Step → σ → Except LedgerError Unit × σ
  | [], s => (.ok (), s)
  | .add d :: steps, s => run steps (db.insert d s)
  | .flush :: steps, s =>
      match db.flush s with
      | (.ok _, s') => run steps s'
      | (.error e, s') => (.error e, s')
  | .fail why :: _, s => (.error (.abandoned why), s)

def attempt (steps : List Step) (s : σ) : Except LedgerError Unit × σ :=
  match db.run steps s with
  | (.ok _, s') => db.commit s'
  | (.error e, s') => (.error e, s')

/-- A scope rolls back what fails, and closes its session in any case. -/
def scope (steps : List Step) (s : σ) : Except LedgerError Unit × σ :=
  match db.attempt steps s with
  | (.ok _, s') => (.ok (), db.close s')
  | (.error e, s') => (.error e, db.close (db.rollback s'))

def scopes : List (List Step) → σ → List (Except LedgerError Unit) × σ
  | [], s => ([], s)
  | steps :: rest, s =>
      let ended := db.scope steps s
      let (outcomes, s') := scopes rest ended.2
      (ended.1 :: outcomes, s')

/-- What a database promises. -/
structure IsTransactional : Prop where
  stored_insert (d : Draft) (s : σ) : db.stored (db.insert d s) = db.stored s
  waiting_insert (d : Draft) (s : σ) : db.waiting (db.insert d s) = db.waiting s ++ [d]
  stored_flush (s : σ) : db.stored (db.flush s).2 = db.stored s
  waiting_flush (s : σ) : (db.flush s).1 = .ok () → db.waiting (db.flush s).2 = db.waiting s
  refused_of_flush (s : σ) (e : LedgerError) : (db.flush s).1 = .error e →
    ∃ d ∈ db.waiting s, Row.ofDraft d = .error e
  /-- A commit stores the rows of all that waits. -/
  commit_ok (s : σ) : (db.commit s).1 = .ok () → db.waiting (db.commit s).2 = [] ∧
    ∃ kept, (db.waiting s).mapM Row.ofDraft = .ok kept ∧
      (db.stored (db.commit s).2).Perm (db.stored s ++ kept)
  /-- A commit that fails stores nothing. -/
  commit_error (s : σ) (e : LedgerError) : (db.commit s).1 = .error e →
    db.stored (db.commit s).2 = db.stored s ∧ ∃ d ∈ db.waiting s, Row.ofDraft d = .error e
  stored_rollback (s : σ) : db.stored (db.rollback s) = db.stored s
  waiting_rollback (s : σ) : db.waiting (db.rollback s) = []
  stored_close (s : σ) : db.stored (db.close s) = db.stored s
  waiting_close (s : σ) : db.waiting (db.close s) = db.waiting s

end Scopes

variable {db : Database σ} {steps : List Step} {s s' : σ} {e : LedgerError}

/-! ### One scope -/

theorem CanFail.of_insert {waiting : List Draft} {d : Draft}
    (h : CanFail (waiting ++ [d]) steps e) : CanFail waiting (.add d :: steps) e := by
  cases h with
  | raised h => exact .raised (List.mem_cons_of_mem _ h)
  | refused h hrow =>
      refine .refused ?_ hrow
      rwa [List.append_assoc] at h

theorem CanFail.cons {waiting : List Draft} {step : Step} (h : CanFail waiting steps e) :
    CanFail waiting (step :: steps) e := by
  cases h with
  | raised h => exact .raised (List.mem_cons_of_mem _ h)
  | refused h hrow =>
      refine .refused ?_ hrow
      have hsub : (drafts steps).Sublist (drafts (step :: steps)) :=
        (List.sublist_cons_self step steps).filterMap _
      exact ((List.Sublist.refl waiting).append hsub).subset h

section

variable (hdb : db.IsTransactional)
include hdb

/-- Steps leave the table alone. What they add waits if they come to their end. -/
theorem run_ok (h : db.run steps s = (.ok (), s')) :
    db.stored s' = db.stored s ∧ db.waiting s' = db.waiting s ++ drafts steps ∧
      ∀ why, .fail why ∉ steps := by
  induction steps generalizing s with
  | nil =>
      obtain ⟨-, rfl⟩ := Prod.mk.inj h
      exact ⟨rfl, (List.append_nil _).symm, fun _ => List.not_mem_nil⟩
  | cons step steps ih =>
      cases step with
      | add d =>
          obtain ⟨hstored, hwaiting, hnone⟩ := ih h
          refine ⟨hstored.trans (hdb.stored_insert d s), ?_, fun why => ?_⟩
          · rw [hwaiting, hdb.waiting_insert, List.append_assoc]
            rfl
          · simpa using hnone why
      | flush =>
          unfold run at h
          cases hflush : db.flush s with
          | mk r s₁ =>
              rw [hflush] at h
              cases r with
              | error e => cases h
              | ok _ =>
                  obtain ⟨hstored, hwaiting, hnone⟩ := ih h
                  have hstored₁ := hdb.stored_flush s
                  have hwaiting₁ := hdb.waiting_flush s (by rw [hflush])
                  rw [hflush] at hstored₁ hwaiting₁
                  refine ⟨hstored.trans hstored₁, ?_, fun why => by simpa using hnone why⟩
                  rw [hwaiting, hwaiting₁]
                  rfl
      | fail why => cases h

theorem run_error (h : db.run steps s = (.error e, s')) :
    db.stored s' = db.stored s ∧ CanFail (db.waiting s) steps e := by
  induction steps generalizing s with
  | nil => cases h
  | cons step steps ih =>
      cases step with
      | add d =>
          obtain ⟨hstored, hfail⟩ := ih h
          rw [hdb.waiting_insert] at hfail
          exact ⟨hstored.trans (hdb.stored_insert d s), hfail.of_insert⟩
      | flush =>
          have hstored₁ := hdb.stored_flush s
          unfold run at h
          cases hflush : db.flush s with
          | mk r s₁ =>
              rw [hflush] at h hstored₁
              cases r with
              | error e₁ =>
                  obtain ⟨he, rfl⟩ := Prod.mk.inj h
                  obtain rfl := Except.error.inj he
                  obtain ⟨d, hd, hrow⟩ := hdb.refused_of_flush s e₁ (by rw [hflush])
                  exact ⟨hstored₁, .refused (List.mem_append_left _ hd) hrow⟩
              | ok _ =>
                  obtain ⟨hstored, hfail⟩ := ih h
                  have hwaiting₁ := hdb.waiting_flush s (by rw [hflush])
                  rw [hflush] at hwaiting₁
                  rw [hwaiting₁] at hfail
                  exact ⟨hstored.trans hstored₁, hfail.cons⟩
      | fail why =>
          obtain ⟨he, rfl⟩ := Prod.mk.inj h
          obtain rfl := Except.error.inj he
          exact ⟨rfl, .raised List.mem_cons_self⟩

theorem attempt_ok (h : db.attempt steps s = (.ok (), s')) :
    (∀ why, .fail why ∉ steps) ∧ db.waiting s' = [] ∧
      ∃ kept, (db.waiting s ++ drafts steps).mapM Row.ofDraft = .ok kept ∧
        (db.stored s').Perm (db.stored s ++ kept) := by
  unfold attempt at h
  cases hrun : db.run steps s with
  | mk r s₁ =>
      rw [hrun] at h
      cases r with
      | error e => cases h
      | ok _ =>
          obtain ⟨hstored, hwaiting, hnone⟩ := run_ok hdb hrun
          obtain ⟨hempty, kept, hkept, hperm⟩ := hdb.commit_ok s₁ (congrArg Prod.fst h)
          rw [show (db.commit s₁).2 = s' from congrArg Prod.snd h] at hempty hperm
          rw [hwaiting] at hkept
          rw [hstored] at hperm
          exact ⟨hnone, hempty, kept, hkept, hperm⟩

theorem attempt_error (h : db.attempt steps s = (.error e, s')) :
    db.stored s' = db.stored s ∧ CanFail (db.waiting s) steps e := by
  unfold attempt at h
  cases hrun : db.run steps s with
  | mk r s₁ =>
      rw [hrun] at h
      cases r with
      | error e₁ =>
          obtain ⟨he, rfl⟩ := Prod.mk.inj h
          obtain rfl := Except.error.inj he
          exact run_error hdb hrun
      | ok _ =>
          obtain ⟨hstored, hwaiting, -⟩ := run_ok hdb hrun
          obtain ⟨hkeeps, d, hd, hrow⟩ := hdb.commit_error s₁ e (congrArg Prod.fst h)
          rw [show (db.commit s₁).2 = s' from congrArg Prod.snd h] at hkeeps
          rw [hwaiting] at hd
          exact ⟨hkeeps.trans hstored, .refused hd hrow⟩

end

/-- A scope ends as its steps and its commit do. -/
theorem scope_fst : (db.scope steps s).1 = (db.attempt steps s).1 := by
  unfold scope
  split <;> rename_i heq <;> rw [heq]

section

variable (hdb : db.IsTransactional) (hs : db.waiting s = [])
include hdb hs

/-- A scope that ends well stores the rows of all its drafts. -/
theorem scope_ok (h : (db.scope steps s).1 = .ok ()) :
    (∀ why, .fail why ∉ steps) ∧ db.waiting (db.scope steps s).2 = [] ∧
      (drafts steps).mapM Row.ofDraft = .ok (rowsOf steps (db.scope steps s).1) ∧
      (db.stored (db.scope steps s).2).Perm (db.stored s ++ rowsOf steps (db.scope steps s).1) := by
  rw [h]
  rw [scope_fst] at h
  cases hattempt : db.attempt steps s with
  | mk r s₁ =>
      rw [hattempt] at h
      obtain rfl : r = .ok () := h
      obtain ⟨hnone, hempty, kept, hkept, hperm⟩ := attempt_ok hdb hattempt
      rw [hs, List.nil_append] at hkept
      have hscope : db.scope steps s = (.ok (), db.close s₁) := by rw [scope, hattempt]
      have hrows : rowsOf steps (.ok ()) = kept := filterMap_toOption_of_mapM hkept
      rw [hscope, hrows]
      exact ⟨hnone, (hdb.waiting_close s₁).trans hempty, hkept, by rwa [hdb.stored_close]⟩

/-- A scope that fails leaves the table as it was. -/
theorem scope_error (h : (db.scope steps s).1 = .error e) :
    CanFail [] steps e ∧ db.waiting (db.scope steps s).2 = [] ∧
      db.stored (db.scope steps s).2 = db.stored s := by
  rw [scope_fst] at h
  cases hattempt : db.attempt steps s with
  | mk r s₁ =>
      rw [hattempt] at h
      obtain rfl : r = .error e := h
      obtain ⟨hstored, hfail⟩ := attempt_error hdb hattempt
      rw [hs] at hfail
      have hscope : db.scope steps s = (.error e, db.close (db.rollback s₁)) := by
        rw [scope, hattempt]
      rw [hscope, hdb.waiting_close, hdb.waiting_rollback, hdb.stored_close, hdb.stored_rollback]
      exact ⟨hfail, rfl, hstored⟩

/-- A scope that raises nothing and whose drafts all make rows ends well. -/
theorem scope_eq_ok_iff : (db.scope steps s).1 = .ok () ↔
    (∀ why, .fail why ∉ steps) ∧ ∃ kept, (drafts steps).mapM Row.ofDraft = .ok kept := by
  constructor
  · intro h
    obtain ⟨hnone, -, hkept, -⟩ := scope_ok hdb hs h
    exact ⟨hnone, _, hkept⟩
  · rintro ⟨hnone, hkept⟩
    cases hr : (db.scope steps s).1 with
    | ok _ => rfl
    | error e =>
        exfalso
        obtain ⟨hfail, -⟩ := scope_error hdb hs hr
        cases hfail with
        | raised h => exact hnone _ h
        | @refused d _ h hrow =>
            obtain ⟨row, hok⟩ := exists_mapM_iff.1 hkept d h
            rw [hrow] at hok
            cases hok

theorem waiting_scope : db.waiting (db.scope steps s).2 = [] := by
  cases hr : (db.scope steps s).1 with
  | ok _ => exact (scope_ok hdb hs hr).2.1
  | error e => exact (scope_error hdb hs hr).2.1

theorem stored_scope :
    (db.stored (db.scope steps s).2).Perm (db.stored s ++ rowsOf steps (db.scope steps s).1) := by
  cases hr : (db.scope steps s).1 with
  | ok _ =>
      rw [← hr]
      exact (scope_ok hdb hs hr).2.2.2
  | error e =>
      rw [(scope_error hdb hs hr).2.2, rowsOf, List.append_nil]

end

/-! ### Many scopes -/

theorem scopes_append (done : List (List Step)) (steps : List Step) (s : σ) :
    db.scopes (done ++ [steps]) s =
      ((db.scopes done s).1 ++ [(db.scope steps (db.scopes done s).2).1],
        (db.scope steps (db.scopes done s).2).2) := by
  induction done generalizing s with
  | nil => rfl
  | cons first done ih =>
      rw [List.cons_append, scopes, ih]
      rfl

/-- After any scopes nothing waits, and the table holds the rows of those that ended well. -/
theorem stored_scopes (hdb : db.IsTransactional) (hs : db.waiting s = [])
    (bodies : List (List Step)) :
    db.waiting (db.scopes bodies s).2 = [] ∧
      (db.stored (db.scopes bodies s).2).Perm
        (db.stored s ++ (List.zipWith rowsOf bodies (db.scopes bodies s).1).flatten) := by
  induction bodies generalizing s with
  | nil => exact ⟨hs, .of_eq (List.append_nil _).symm⟩
  | cons steps bodies ih =>
      have hnext : db.waiting (db.scope steps s).2 = [] := waiting_scope hdb hs
      obtain ⟨hwaiting, hstored⟩ := ih hnext
      refine ⟨hwaiting, hstored.trans ?_⟩
      rw [scopes, List.zipWith_cons_cons, List.flatten_cons, ← List.append_assoc]
      exact (stored_scope hdb hs).append_right _

/-! ### A database in memory -/

def memory : Database (List Posting × List Draft) where
  stored s := s.1
  waiting s := s.2
  insert d s := (s.1, s.2 ++ [d])
  flush s := ((s.2.mapM Row.ofDraft).map (fun _ => ()), s)
  commit s :=
    match s.2.mapM Row.ofDraft with
    | .ok kept => (.ok (), (s.1 ++ kept, []))
    | .error e => (.error e, s)
  rollback s := (s.1, [])
  close s := s

theorem isTransactional_memory : memory.IsTransactional where
  stored_insert _ _ := rfl
  waiting_insert _ _ := rfl
  stored_flush _ := rfl
  waiting_flush _ _ := rfl
  refused_of_flush s e h := by
    change (s.2.mapM Row.ofDraft).map (fun _ => ()) = .error e at h
    cases hrows : s.2.mapM Row.ofDraft with
    | ok kept =>
        rw [hrows] at h
        cases h
    | error e' =>
        rw [hrows] at h
        obtain rfl : e' = e := Except.error.inj h
        exact exists_of_mapM_eq_error hrows
  commit_ok s h := by
    cases hrows : s.2.mapM Row.ofDraft with
    | ok kept =>
        have hcommit : memory.commit s = (.ok (), (s.1 ++ kept, [])) := by simp only [memory, hrows]
        rw [hcommit]
        exact ⟨rfl, kept, hrows, .refl _⟩
    | error e =>
        simp only [memory, hrows] at h
        cases h
  commit_error s e h := by
    cases hrows : s.2.mapM Row.ofDraft with
    | ok kept =>
        simp only [memory, hrows] at h
        cases h
    | error e' =>
        have hcommit : memory.commit s = (.error e', s) := by simp only [memory, hrows]
        rw [hcommit] at h ⊢
        obtain rfl : e' = e := Except.error.inj h
        exact ⟨rfl, exists_of_mapM_eq_error hrows⟩
  stored_rollback _ := rfl
  waiting_rollback _ := rfl
  stored_close _ := rfl
  waiting_close _ := rfl

/-- The steps of a scope of a store: each draft is flushed before the next one is made. -/
def stepsOf : LedgerStore.Scope → List Step
  | [] => []
  | .ok d :: scope => .add d :: .flush :: stepsOf scope
  | .error why :: scope => .fail why :: stepsOf scope

/-- What is left of a scope of a store, after drafts that have made rows. -/
theorem commit_eq_attempt {waiting : List Draft} {kept : List Posting}
    (hkept : waiting.mapM Row.ofDraft = .ok kept) (rows : List Posting)
    (scope : LedgerStore.Scope) :
    (LedgerStore.ready (rows ++ kept)).commit scope =
      (memory.attempt (stepsOf scope) (rows, waiting)).1.map
        (fun _ => .ready (memory.attempt (stepsOf scope) (rows, waiting)).2.1) := by
  induction scope generalizing waiting kept with
  | nil =>
      have hattempt : memory.attempt (stepsOf []) (rows, waiting) =
          (.ok (), (rows ++ kept, [])) := by
        simp only [stepsOf, attempt, run, memory, hkept]
      rw [hattempt]
      rfl
  | cons step scope ih =>
      cases step with
      | error why => rfl
      | ok d =>
          have hstep : (LedgerStore.ready (rows ++ kept)).commit (.ok d :: scope) =
              (LedgerStore.ready (rows ++ kept)).inserted d >>= fun s => s.commit scope := rfl
          rw [hstep, LedgerStore.inserted, bind_assoc]
          have hwaiting : (waiting ++ [d]).mapM Row.ofDraft =
              Row.ofDraft d >>= fun row => .ok (kept ++ [row]) := by
            rw [List.mapM_append, hkept, ok_bind, List.mapM_cons, bind_assoc]
            rfl
          cases hrow : Row.ofDraft d with
          | error e =>
              rw [hrow, error_bind] at hwaiting
              have hattempt : memory.attempt (stepsOf (.ok d :: scope)) (rows, waiting) =
                  (.error e, (rows, waiting ++ [d])) := by
                simp only [stepsOf, attempt, run, memory, hwaiting, Except.map]
              rw [hattempt]
              rfl
          | ok row =>
              rw [hrow, ok_bind] at hwaiting
              have hattempt : memory.attempt (stepsOf (.ok d :: scope)) (rows, waiting) =
                  memory.attempt (stepsOf scope) (rows, waiting ++ [d]) := by
                simp only [stepsOf, attempt, run, memory, hwaiting, Except.map]
              rw [hattempt, ← ih hwaiting, ← List.append_assoc]
              rfl

/-- The scopes of a store are scopes in memory. -/
theorem commit_eq_scope (rows : List Posting) (scope : LedgerStore.Scope) :
    (LedgerStore.ready rows).commit scope =
      (memory.scope (stepsOf scope) (rows, [])).1.map
        (fun _ => .ready (memory.scope (stepsOf scope) (rows, [])).2.1) := by
  have hnone : ([] : List Draft).mapM Row.ofDraft = .ok [] := rfl
  have hattempt := commit_eq_attempt hnone rows scope
  rw [List.append_nil] at hattempt
  rw [hattempt]
  unfold Database.scope
  cases memory.attempt (stepsOf scope) (rows, []) with
  | mk r s => cases r <;> rfl

/-! ### Reading the table -/

/-- All rows are found, each as often as it is stored, by date and then by account. -/
theorem exists_yields_select_star (rows : List Posting) :
    ∃ found, Yields ((LedgerStore.ready rows).select "*") (.ok found) ∧ found.Perm rows ∧
      found.Pairwise (fun p q => p.date.day < q.date.day ∨
        p.date.day = q.date.day ∧ q.account.before p.account = false) := by
  have hselect := LedgerStore.yields_select rows "*"
  rw [LedgerStore.filterOf_eq_ok_iff.2 ⟨rfl, "%", by decide, .inr (by decide)⟩] at hselect
  have hfound : LedgerStore.candidates (AccountPattern.coarse "*") rows =
      sorted LedgerStore.before rows := LedgerStore.candidates_of_star rows
  refine ⟨sorted LedgerStore.before rows, hfound ▸ hselect, perm_sorted _ rows, ?_⟩
  refine (pairwise_sorted LedgerStore.before_trans LedgerStore.before_irrefl rows).imp ?_
  intro p q hnot
  simp only [LedgerStore.before, Bool.or_eq_false_iff, Bool.and_eq_false_iff,
    decide_eq_false_iff_not, beq_eq_false_iff_ne] at hnot
  obtain ⟨hday, haccount⟩ := hnot
  rcases Nat.lt_or_eq_of_le (Nat.not_lt.1 hday) with hlt | heq
  · exact .inl hlt
  · exact .inr ⟨heq, haccount.resolve_left (fun hne => hne heq.symm)⟩

end Database

end Appraisal
