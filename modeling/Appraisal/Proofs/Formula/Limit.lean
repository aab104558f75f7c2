import Appraisal.Proofs.Formula.Budget
import Appraisal.Proofs.Formula.Provenance

/-!
# The limit of steps

Two runs of a program with different limits do the same, step by step, until the smaller limit cuts
one of them off. A limit of at least as many steps as the tree has nodes cuts off nothing. The main
statement: the limit of steps only cuts off, and it never does so for a formula that was compiled
within a limit of nodes that is no greater.
-/

namespace Appraisal.Formula

open Outcome

namespace Evaluation

variable {v : Evaluation} {limit : Int} {α β : Type}

/-- A computation passes its limit, or ends as another one does, after as many steps. -/
def CutsOff (v : Evaluation) (m m' : Steps α) : Prop :=
  ∀ n, m n = .error v.exhausted ∨ m n = m' n

theorem cutsOff_rfl (m : Steps α) : v.CutsOff m m := fun _ => .inr rfl

theorem CutsOff.bind {m m' : Steps α} {f f' : α → Steps β} (hm : v.CutsOff m m')
    (hf : ∀ a, v.CutsOff (f a) (f' a)) : v.CutsOff (m >>= f) (m' >>= f') := by
  intro n
  have hleft : (m >>= f) n = m n >>= fun r => f r.1 r.2 := rfl
  have hright : (m' >>= f') n = m' n >>= fun r => f' r.1 r.2 := rfl
  rcases hm n with he | he
  · left
    rw [hleft, he, error_bind]
  · rw [hleft, hright, ← he]
    cases hrun : m n with
    | error e =>
        right
        rfl
    | ok r => exact hf r.1 r.2

/-- A step that the smaller limit lets pass counts alike under both. -/
theorem cutsOff_step (h : v.limit ≤ limit) : v.CutsOff v.step (step { v with limit := limit }) := by
  intro n
  unfold step
  by_cases hn : v.limit < (n + 1 : Nat)
  · left
    exact if_pos hn
  · right
    have hn' : ¬ limit < (n + 1 : Nat) := by omega
    rw [if_neg hn, if_neg hn']

theorem cutsOff_evalAll {ts : List Tree}
    (h : ∀ t ∈ ts, v.CutsOff (v.eval t) (eval { v with limit := limit } t)) :
    v.CutsOff (v.evalAll ts) (evalAll { v with limit := limit } ts) := by
  induction ts with
  | nil => exact cutsOff_rfl _
  | cons t ts ih =>
      rw [List.forall_mem_cons] at h
      apply h.1.bind
      intro first
      apply (ih h.2).bind
      intro rest
      exact cutsOff_rfl _

theorem cutsOff_eval (h : v.limit ≤ limit) (t : Tree) :
    v.CutsOff (v.eval t) (eval { v with limit := limit } t) := by
  induction t with
  | literal d k => exact (cutsOff_step h).bind (fun _ => cutsOff_rfl _)
  | reference name k => exact (cutsOff_step h).bind (fun _ => cutsOff_rfl _)
  | unary op e k ih =>
      apply (cutsOff_step h).bind
      intro _
      cases op with
      | unknown s => exact cutsOff_rfl _
      | _ => exact ih.bind (fun d => cutsOff_rfl _)
  | binary op l r k ihl ihr =>
      have hright : v.CutsOff (do return Datum.truth (← v.truth (← v.eval r)))
          (do return Datum.truth (← v.truth (← eval { v with limit := limit } r))) :=
        ihr.bind (fun d => cutsOff_rfl _)
      apply (cutsOff_step h).bind
      intro _
      cases op with
      | and =>
          apply ihl.bind
          intro d
          apply (cutsOff_rfl (liftM (v.truth d))).bind
          intro b
          cases b
          · exact cutsOff_rfl _
          · exact hright
      | or =>
          apply ihl.bind
          intro d
          apply (cutsOff_rfl (liftM (v.truth d))).bind
          intro b
          cases b
          · exact hright
          · exact cutsOff_rfl _
      | _ => exact ihl.bind (fun a => ihr.bind (fun b => cutsOff_rfl _))
  | call name args k ih =>
      apply (cutsOff_step h).bind
      intro _
      apply (cutsOff_rfl (liftM (v.function name))).bind
      intro f
      exact (cutsOff_evalAll ih).bind (fun values => cutsOff_rfl _)

end Evaluation

namespace Program

variable (p : Program) (environment : Environment)

theorem run_eq_of_le {n m : Int} (h : n ≤ m)
    (hn : p.run environment n ≠ .error (.formula (.outOfSteps p.source n))) :
    p.run environment m = p.run environment n := by
  have hcut := @Evaluation.cutsOff_eval ⟨p.source, p.registry, environment, n⟩ m h p.root 0
  unfold run at hn ⊢
  rcases hcut with he | he
  · rw [he] at hn
    exact absurd rfl hn
  · rw [he]

/-- A run that is not cut off: it ends as it would if steps were not counted, and a limit of steps
that is passed in it is one of a function of the registry. -/
structure StaysWithin (limit : Int) : Prop where
  run_eq : p.run environment limit = p.value environment
  raises : ∀ source n, p.run environment limit = .error (.formula (.outOfSteps source n)) →
    p.registry.Raises (.formula (.outOfSteps source n))

theorem staysWithin_of_count_le {limit : Int} (h : p.count ≤ limit) :
    p.StaysWithin environment limit where
  run_eq := p.run_eq_value environment limit h
  raises := by
    intro source n hrun
    rw [p.run_eq_value environment limit h] at hrun
    exact @Evaluation.raises_of_outOfSteps ⟨p.source, p.registry, environment, 0⟩ _ _ _ hrun

end Program

theorem count_le_of_compile {source : Text} {schema : Schema} {registry : Registry}
    {nodeLimit : Int} {p : Program} (h : compile source schema registry nodeLimit = .ok p) :
    p.count ≤ nodeLimit := by
  obtain ⟨e, root, -, -, hcount, rfl⟩ :=
    compileByCount_eq_ok_iff.1 (compile_eq_compileByCount.1 h)
  exact hcount

/-- The limit of steps only cuts off. Unless a run passes its limit, every run with a greater limit
ends with the same value or the same fault. A run whose limit is at least the number of nodes is not
cut off, and neither is a run of a formula whose limit of nodes was no greater than the limit of
steps. What is left are functions that pass a limit of their own; the library has none. -/
theorem limit_only_cuts_off :
    (∀ (p : Program) (environment : Environment) (n m : Int), n ≤ m →
      p.run environment n ≠ .error (.formula (.outOfSteps p.source n)) →
      p.run environment m = p.run environment n) ∧
    (∀ (p : Program) (environment : Environment) (n : Int), p.count ≤ n →
      p.StaysWithin environment n) ∧
    (∀ (source : Text) (schema : Schema) (registry : Registry) (nodeLimit : Int) (p : Program),
      compile source schema registry nodeLimit = .ok p →
      ∀ (environment : Environment) (n : Int), nodeLimit ≤ n → p.StaysWithin environment n) ∧
    ∀ source n, ¬ Library.registry.Raises (.formula (.outOfSteps source n)) := by
  refine ⟨?_, ?_, ?_, ?_⟩
  · intro p environment n m h hn
    exact p.run_eq_of_le environment h hn
  · intro p environment n h
    exact p.staysWithin_of_count_le environment h
  · intro source schema registry nodeLimit p hp environment n h
    have hcount : p.count ≤ n := (count_le_of_compile hp).trans h
    exact p.staysWithin_of_count_le environment hcount
  · intro source n h
    cases Library.isElementary_of_raises h

/-- The second operand of this conjunction has no value, and a run does not ask for it. -/
def halfLooked : Program :=
  ⟨"false and absent",
    .binary .and (.literal (.truth false) .boolean) (.reference "absent" .boolean) .boolean,
    Library.registry⟩

theorem halfLooked_only_cut_off :
    (halfLooked.run (fun _ => none) 1 = .error (.formula (.outOfSteps "false and absent" 1)) ∧
      halfLooked.run (fun _ => none) 2 = .ok (.truth false) ∧
      halfLooked.run (fun _ => none) 10000 = halfLooked.run (fun _ => none) 2) ∧
    halfLooked.StaysWithin (fun _ => none) 3 ∧
    ∃ p, compile "false and amount < 1" = .ok p ∧
      ∀ c : Context, p.StaysWithin c.lookup? defaultStepLimit := by
  obtain ⟨hgreater, hnodes, hcompiled, -⟩ := limit_only_cuts_off
  have htwo : halfLooked.run (fun _ => none) 2 = .ok (.truth false) := rfl
  refine ⟨⟨rfl, htwo, hgreater _ _ 2 10000 (by decide) ?_⟩, hnodes _ _ 3 (by decide), ?_⟩
  · rw [htwo]
    exact nofun
  · obtain ⟨p, hp⟩ : ∃ p, compile "false and amount < 1" = .ok p := by
      apply exists_eq_ok_of_isSome
      decide +kernel
    refine ⟨p, hp, fun c => ?_⟩
    exact hcompiled _ _ _ _ p hp c.lookup? defaultStepLimit (by decide)

end Appraisal.Formula
