import Appraisal.Formula.Evaluation
import Appraisal.Proofs.Formula.Induction
import Appraisal.Proofs.Outcome

/-!
# Values without a limit

The value of a tree when steps are not counted. What the value of a tree satisfies follows from what
the values of its parts do, one lemma for each form of a node. An evaluation that counts steps gives
this value, or the fault that takes its place, unless it passes its limit; a limit of as many steps as
the tree has nodes is never passed.
-/

namespace Appraisal.Formula

namespace Evaluation

open Outcome

variable (v : Evaluation)

mutual

def value : Tree → Except Fault Datum
  | .literal d _ => .ok d
  | .reference name _ => v.lookup name
  | .unary op e _ =>
      match op with
      | .not => do
          let b ← v.truth (← value e)
          return .truth (!b)
      | .negate => do
          let q ← v.number (← value e)
          return .ofQuantity q.negate
      | .plus => do
          let q ← v.number (← value e)
          return .ofQuantity q
      | .unknown _ => .error (v.failed "unsupported node UnaryOp")
  | .binary op l r _ =>
      match op with
      | .and => do
          if ← v.truth (← value l) then return .truth (← v.truth (← value r))
          else return .truth false
      | .or => do
          if ← v.truth (← value l) then return .truth true
          else return .truth (← v.truth (← value r))
      | op => do
          let a ← value l
          let b ← value r
          v.combined op a b
  | .call name args _ => do
      let f ← v.function name
      let values ← values args
      f.invoke values v.source

def values : List Tree → Except Fault (List Datum)
  | [] => .ok []
  | e :: es => do
      let first ← value e
      let rest ← values es
      return first :: rest

end

/-! ### What a value satisfies -/

section

variable {v} {allowed : Fault → Prop} {P P' Q : Datum → Prop} {t l r : Tree} {k : Kind}

theorem sound_not (h : Sound allowed P (v.value t))
    (htruth : ∀ d, P d → Sound allowed (fun _ => True) (v.truth d)) (hQ : ∀ b, Q (.truth b)) :
    Sound allowed Q (v.value (.unary .not t k)) := by
  apply h.bind
  intro d hd
  apply (htruth d hd).bind
  intro b _
  exact hQ (!b)

theorem sound_sign {op : UnaryOperator} (ho : op = .negate ∨ op = .plus) {R : Quantity → Prop}
    (h : Sound allowed P (v.value t)) (hnumber : ∀ d, P d → Sound allowed R (v.number d))
    (hnegate : ∀ q, R q → R q.negate) (hQ : ∀ q, R q → Q (.ofQuantity q)) :
    Sound allowed Q (v.value (.unary op t k)) := by
  rcases ho with rfl | rfl
  · apply h.bind
    intro d hd
    apply (hnumber d hd).bind
    intro q hq
    exact hQ _ (hnegate q hq)
  · apply h.bind
    intro d hd
    apply (hnumber d hd).bind
    intro q hq
    exact hQ q hq

/-- A connective asks for its second operand only if the first one does not decide. -/
theorem sound_connective {op : BinaryOperator} (ho : op = .and ∨ op = .or)
    (hl : Sound allowed P (v.value l)) (hr : Sound allowed P (v.value r))
    (htruth : ∀ d, P d → Sound allowed (fun _ => True) (v.truth d)) (hQ : ∀ b, Q (.truth b)) :
    Sound allowed Q (v.value (.binary op l r k)) := by
  have hright : Sound allowed Q (do return Datum.truth (← v.truth (← v.value r))) := by
    apply hr.bind
    intro d hd
    apply (htruth d hd).bind
    intro b _
    exact hQ b
  rcases ho with rfl | rfl
  · apply hl.bind
    intro d hd
    apply (htruth d hd).bind
    intro b _
    cases b with
    | false => exact hQ false
    | true => exact hright
  · apply hl.bind
    intro d hd
    apply (htruth d hd).bind
    intro b _
    cases b with
    | false => exact hright
    | true => exact hQ true

/-- All other operators look at both operands. -/
theorem sound_binary {op : BinaryOperator} (ho : ¬ (op = .and ∨ op = .or))
    (hl : Sound allowed P (v.value l)) (hr : Sound allowed P' (v.value r))
    (h : ∀ a b, P a → P' b → Sound allowed Q (v.combined op a b)) :
    Sound allowed Q (v.value (.binary op l r k)) := by
  have hvalue : v.value (.binary op l r k) =
      (do
        let a ← v.value l
        let b ← v.value r
        v.combined op a b) := by
    cases op with
    | and => exact absurd (.inl rfl) ho
    | or => exact absurd (.inr rfl) ho
    | _ => rfl
  rw [hvalue]
  exact hl.bind (fun a ha => hr.bind (fun b hb => h a b ha hb))

theorem sound_values {R : Tree → Datum → Prop} {ts : List Tree}
    (h : ∀ t ∈ ts, Sound allowed (R t) (v.value t)) :
    Sound allowed (List.Forall₂ R ts) (v.values ts) := by
  induction ts with
  | nil => exact .nil
  | cons t ts ih =>
      rw [List.forall_mem_cons] at h
      exact h.1.bind (fun d hd => (ih h.2).bind (fun ds hds => .cons hd hds))

end

def exhausted : Fault := .formula (.outOfSteps v.source v.limit)

/-- A computation that counts its steps gives what another one gives, after at most so many steps,
or it passes the limit on the way. -/
def Follows {α : Type} (m : Steps α) (x : Except Fault α) (k : Nat) : Prop :=
  ∀ n, (m n = .error v.exhausted ∧ v.limit < (n + k : Nat)) ∨
    ∃ n' ≤ n + k, m n = x.map (fun a => (a, n'))

variable {v} {α β : Type}

theorem follows_pure (a : α) : v.Follows (pure a) (.ok a) 0 :=
  fun n => .inr ⟨n, by omega, rfl⟩

theorem follows_throw (e : Fault) : v.Follows (throw e : Steps α) (.error e) 0 :=
  fun n => .inr ⟨n, by omega, rfl⟩

theorem follows_lift (x : Except Fault α) : v.Follows (liftM x : Steps α) x 0 := by
  intro n
  refine .inr ⟨n, by omega, ?_⟩
  cases x <;> rfl

theorem follows_step : v.Follows v.step (.ok ()) 1 := by
  intro n
  unfold step
  by_cases h : v.limit < (n + 1 : Nat)
  · exact .inl ⟨if_pos h, h⟩
  · exact .inr ⟨n + 1, by omega, if_neg h⟩

theorem Follows.mono {m : Steps α} {x : Except Fault α} {k k' : Nat} (h : v.Follows m x k)
    (hk : k ≤ k') : v.Follows m x k' := by
  intro n
  rcases h n with ⟨he, hl⟩ | ⟨n', hn', he⟩
  · exact .inl ⟨he, by omega⟩
  · exact .inr ⟨n', by omega, he⟩

theorem Follows.bind {m : Steps α} {x : Except Fault α} {f : α → Steps β}
    {g : α → Except Fault β} {k k' : Nat} (hm : v.Follows m x k)
    (hf : ∀ a, x = .ok a → v.Follows (f a) (g a) k') :
    v.Follows (m >>= f) (x >>= g) (k + k') := by
  intro n
  have hbind : (m >>= f) n = m n >>= fun r => f r.1 r.2 := rfl
  rw [hbind]
  rcases hm n with ⟨he, hl⟩ | ⟨n', hn', he⟩
  · exact .inl ⟨by rw [he, error_bind], by omega⟩
  · cases x with
    | error e => exact .inr ⟨n', by omega, by rw [he]; rfl⟩
    | ok a =>
        have hrun : m n = .ok (a, n') := he
        rw [hrun, ok_bind]
        -- the second part may start later than at `n`, but not later than at `n + k`
        rcases hf a rfl n' with ⟨he', hl'⟩ | ⟨n'', hn'', he'⟩
        · exact .inl ⟨he', by omega⟩
        · exact .inr ⟨n'', by omega, he'⟩

theorem Follows.ite {m m' : Steps α} {x x' : Except Fault α} {k : Nat} (h : v.Follows m x k)
    (b : Bool) (h' : v.Follows m' x' k) :
    v.Follows (if b then m else m') (if b then x else x') k := by
  cases b
  · exact h'
  · exact h

theorem follows_evalAll {ts : List Tree}
    (h : ∀ t ∈ ts, v.Follows (v.eval t) (v.value t) t.count) :
    v.Follows (v.evalAll ts) (v.values ts) (Tree.counts ts) := by
  induction ts with
  | nil => exact follows_pure []
  | cons t ts ih =>
      rw [List.forall_mem_cons] at h
      have hrest := fun first => (ih h.2).bind (g := fun rest => .ok (first :: rest))
        (fun rest _ => follows_pure (first :: rest))
      exact h.1.bind (fun first _ => hrest first)

/-- An evaluation takes no more steps than the tree has nodes. -/
theorem follows_eval (t : Tree) : v.Follows (v.eval t) (v.value t) t.count := by
  induction t with
  | literal d k => exact follows_step.bind (g := fun _ => .ok d) (fun _ _ => follows_pure d)
  | reference name k =>
      exact follows_step.bind (g := fun _ => v.lookup name) (fun _ _ => follows_lift _)
  | unary op e k ih =>
      refine follows_step.bind (g := fun _ => v.value (.unary op e k)) (fun _ _ => ?_)
      cases op with
      | not =>
          exact ih.bind (fun d _ => (follows_lift (v.truth d)).bind (fun _ _ => follows_pure _))
      | negate =>
          exact ih.bind (fun d _ => (follows_lift (v.number d)).bind (fun _ _ => follows_pure _))
      | plus =>
          exact ih.bind (fun d _ => (follows_lift (v.number d)).bind (fun _ _ => follows_pure _))
      | unknown s => exact (follows_throw _).mono (Nat.zero_le _)
  | binary op l r k ihl ihr =>
      have hr : v.Follows (do return Datum.truth (← v.truth (← v.eval r)))
          (do return Datum.truth (← v.truth (← v.value r))) r.count :=
        ihr.bind (fun d _ => (follows_lift (v.truth d)).bind (fun _ _ => follows_pure _))
      have hb (b : Bool) : v.Follows (pure (Datum.truth b)) (.ok (.truth b)) r.count :=
        (follows_pure _).mono (Nat.zero_le _)
      rw [Tree.count, Nat.add_assoc]
      refine follows_step.bind (g := fun _ => v.value (.binary op l r k)) (fun _ _ => ?_)
      cases op with
      | and =>
          have ht (d : Datum) := (follows_lift (v.truth d)).bind (fun b _ => hr.ite b (hb false))
          exact (ihl.bind (fun d _ => ht d)).mono (by omega)
      | or =>
          have ht (d : Datum) := (follows_lift (v.truth d)).bind (fun b _ => (hb true).ite b hr)
          exact (ihl.bind (fun d _ => ht d)).mono (by omega)
      | _ => exact ihl.bind (fun a _ => ihr.bind (fun b _ => follows_lift (v.combined _ a b)))
  | call name args k ih =>
      have hrun (f : Function) := (follows_evalAll ih).bind
        (fun values _ => follows_lift (f.invoke values v.source))
      have hcall := (follows_lift (v.function name)).bind (fun f _ => hrun f)
      refine follows_step.bind (g := fun _ => v.value (.call name args k)) (fun _ _ => ?_)
      exact hcall.mono (by omega)

/-- The value does not depend on the limit. -/
theorem value_withLimit (limit : Int) (t : Tree) :
    value { v with limit := limit } t = v.value t := by
  induction t with
  | literal d k => rfl
  | reference name k => rfl
  | unary op e k ih =>
      cases op with
      | unknown s => rfl
      | _ => exact congrArg (fun x => x >>= _) ih
  | binary op l r k ihl ihr =>
      cases op
      all_goals
        simp only [value, ihl, ihr]
        rfl
  | call name args k ih =>
      have hall : values { v with limit := limit } args = v.values args := by
        induction args with
        | nil => rfl
        | cons t ts ihts =>
            rw [List.forall_mem_cons] at ih
            simp only [values, ih.1, ihts ih.2]
      simp only [value, hall]
      rfl

end Evaluation

/-! ### Programs -/

namespace Program

variable (p : Program) (environment : Environment) (limit : Int)

/-- The value of a program when steps are not counted. -/
def value : Except Fault Datum :=
  Evaluation.value ⟨p.source, p.registry, environment, 0⟩ p.root

theorem run_eq_outOfSteps_or_value :
    (p.run environment limit = .error (.formula (.outOfSteps p.source limit)) ∧
      limit < p.count) ∨ p.run environment limit = p.value environment := by
  have hv := @Evaluation.value_withLimit ⟨p.source, p.registry, environment, 0⟩ limit p.root
  unfold run value
  rw [← hv]
  rcases @Evaluation.follows_eval ⟨p.source, p.registry, environment, limit⟩ p.root 0 with
    ⟨he, hl⟩ | ⟨n, -, he⟩
  · refine .inl ⟨by rw [he]; rfl, ?_⟩
    rwa [Nat.zero_add] at hl
  · refine .inr ?_
    rw [he]
    cases Evaluation.value ⟨p.source, p.registry, environment, limit⟩ p.root <;> rfl

theorem run_eq_value (h : p.count ≤ limit) : p.run environment limit = p.value environment := by
  rcases p.run_eq_outOfSteps_or_value environment limit with ⟨-, hl⟩ | he
  · omega
  · exact he

end Program

end Appraisal.Formula
