import Appraisal.Proofs.Formula.Lowering
import Appraisal.Proofs.Formula.Value

/-!
# Meanings of expressions

The value that an expression has before any lowering. Operands are evaluated from left to right; a
connective stops at the first operand that decides it; a chain of comparisons evaluates each operand
once and stops at the first link that does not hold; the arguments of a call are all evaluated
before the call. A lowered tree, in which the links of a chain share their operands, has the same
value or the same fault.
-/

namespace Appraisal.Formula

open Outcome Scope

namespace Evaluation

variable (v : Evaluation)

def signed (op : PrefixOperator) (d : Datum) : Except Fault Datum :=
  match op with
  | .negate => (v.number d).map (fun q => .ofQuantity q.negate)
  | .plus => (v.number d).map .ofQuantity
  | .not => (v.truth d).map (fun b => .truth (!b))
  | .invert => .error .unsupported

def literalOf : Constant → Except Fault Datum
  | .truth b => .ok (.truth b)
  | .whole n => (floatOfInt? n).elim (.error .unsupported) (fun x => .ok (.double x))
  | .double x => .ok (.double x)
  | .text t => .ok (.text t)
  | _ => .error .unsupported

/-- The names of the truth values come before those of the variables. -/
def named (n : String) : Except Fault Datum :=
  match truthName? n with
  | some b => .ok (.truth b)
  | none => v.lookup n

mutual

/-- The value of an expression; a connective with a single operand is this operand. -/
def meaning : Surface → Except Fault Datum
  | .constant _ c => literalOf c
  | .name _ n => v.named n
  | .unary _ op e => do v.signed op (← meaning e)
  | .binary _ op l r => do
      let a ← meaning l
      let b ← meaning r
      match arithmetic? op with
      | some op => v.computed op a b
      | none => .error .unsupported
  | .connective _ _ [e] => meaning e
  | .connective _ conjunction es => decided conjunction es
  | .comparison _ l links => do chained (← meaning l) links
  | .call _ (.name _ n) args _ => do
      let f ← v.function n
      f.invoke (← meanings args) v.source
  | .call .. => .error .unsupported
  | .other .. => .error .unsupported

/-- The operands of a connective, up to the first that decides it. -/
def decided (conjunction : Bool) : List Surface → Except Fault Datum
  | [] => .ok (.truth conjunction)
  | e :: es => do
      let b ← v.truth (← meaning e)
      if b = conjunction then decided conjunction es else return .truth b

/-- The links of a chain whose last operand so far has a value, up to the first that does not hold.
-/
def chained (a : Datum) : List (Relation × Surface) → Except Fault Datum
  | [] => .ok (.truth true)
  | link :: links => do
      let (b, holds) ← linked a link
      if holds then chained b links else return .truth false

def linked (a : Datum) : Relation × Surface → Except Fault (Datum × Bool)
  | (relation, e) => do
      let b ← meaning e
      match comparison? relation with
      | some op => return (b, ← v.truth (← v.compared op a b))
      | none => .error .unsupported

def meanings : List Surface → Except Fault (List Datum)
  | [] => .ok []
  | e :: es => do
      let first ← meaning e
      let rest ← meanings es
      return first :: rest

end

/-! ### Operands one after the other -/

variable {v}

def turns (conjunction : Bool) : List (Except Fault Datum) → Except Fault Datum
  | [] => .ok (.truth conjunction)
  | x :: xs => do
      let b ← v.truth (← x)
      if b = conjunction then turns conjunction xs else return .truth b

theorem truth_truth (b : Bool) : v.truth (.truth b) = .ok b := rfl

theorem turns_append (conjunction : Bool) (xs ys : List (Except Fault Datum)) :
    v.turns conjunction (xs ++ ys) = do
      let b ← v.truth (← v.turns conjunction xs)
      if b = conjunction then v.turns conjunction ys else return .truth b := by
  induction xs with
  | nil => simp [turns, truth_truth]
  | cons x xs ih =>
      cases x with
      | error e => rfl
      | ok a =>
          simp only [List.cons_append, turns, ok_bind]
          cases v.truth a with
          | error e => rfl
          | ok b =>
              by_cases hb : b = conjunction
              · simp only [ok_bind, hb, if_true, ih]
              · simp [hb, truth_truth]

theorem turns_singleton (conjunction : Bool) (x : Except Fault Datum) :
    v.turns conjunction [x] = do return .truth (← v.truth (← x)) := by
  simp only [turns]
  refine bind_congr fun a => bind_congr fun b => ?_
  by_cases hb : b = conjunction
  · rw [if_pos hb, hb]
    rfl
  · exact if_neg hb

theorem value_connector (conjunction : Bool) (l r : Tree) (k : Kind) :
    v.value (.binary (connector conjunction) l r k) = do
      let b ← v.truth (← v.value l)
      if b = conjunction then v.turns conjunction [v.value r] else return .truth b := by
  cases conjunction
  all_goals
    simp only [connector, value, turns_singleton]
    refine bind_congr fun a => bind_congr fun b => ?_
    cases b <;> rfl

/-- Joining operands from the left asks for them in turn. -/
theorem value_joined {conjunction : Bool} {first : Tree} {xs : List (Except Fault Datum)}
    (h : v.value first = v.turns conjunction xs) (rest : List Tree) :
    v.value (joined (connector conjunction) first rest) =
      v.turns conjunction (xs ++ rest.map v.value) := by
  unfold joined
  induction rest generalizing first xs with
  | nil => simpa using h
  | cons t ts ih =>
      have hnext : v.value (.binary (connector conjunction) first t .boolean) =
          v.turns conjunction (xs ++ [v.value t]) := by
        rw [value_connector, turns_append, h]
      rw [List.foldl_cons, ih hnext, List.append_assoc, List.map_cons, List.singleton_append]

theorem value_joined_cons (conjunction : Bool) (first second : Tree) (rest : List Tree) :
    v.value (joined (connector conjunction) first (second :: rest)) =
      v.turns conjunction ((first :: second :: rest).map v.value) := by
  have h : v.value (.binary (connector conjunction) first second .boolean) =
      v.turns conjunction [v.value first, v.value second] := by
    rw [value_connector]
    rfl
  exact value_joined h rest

theorem decided_eq_turns (conjunction : Bool) (es : List Surface) :
    v.decided conjunction es = v.turns conjunction (es.map v.meaning) := by
  induction es with
  | nil => rfl
  | cons e es ih => simp only [decided, List.map_cons, turns, ih]

/-! ### Expressions and their trees -/

def Keeps (v : Evaluation) (e : Surface) (t : Tree) : Prop := v.value t = v.meaning e

def KeepsLinks (v : Evaluation) (links : List (Relation × Surface))
    (rest : List (Relation × Tree)) : Prop :=
  List.Forall₂ (fun link r => link.1 = r.1 ∧ v.Keeps link.2 r.2) links rest

/-! ### Chains -/

theorem compared_eq_ok {op : Comparison} {a b d : Datum} (h : v.compared op a b = .ok d) :
    ∃ t, d = .truth t := by
  have hmap {x : Except Fault Bool} {f : Bool → Bool} (hx : x.map (fun r => .truth (f r)) = .ok d) :
      ∃ t, d = .truth t := by
    cases x with
    | error e => simp [Except.map] at hx
    | ok r => exact ⟨f r, (Except.ok.inj hx).symm⟩
  have hordered (ho : v.ordered op a b = .ok d) : ∃ t, d = .truth t := by
    unfold ordered at ho
    split at ho
    · obtain ⟨o, -, hd⟩ := bind_eq_ok_iff.1 ho
      exact ⟨holds op o, (Except.ok.inj hd).symm⟩
    · simp at ho
  cases op with
  | eq => exact hmap (f := id) h
  | ne => exact hmap h
  | _ => exact hordered h

/-- The links of a lowered chain, asked for in turn, give what the chain gives when each operand is
evaluated once. -/
theorem turns_links {s : Scope} {column : Nat} {l : Tree} {a : Datum}
    {rest : List (Relation × Tree)} {links : List (Relation × Surface)} {us : List Tree}
    (hl : v.value l = .ok a) (h : s.links column l rest = .ok us)
    (hrest : v.KeepsLinks links rest) :
    v.turns true (us.map v.value) = v.chained a links := by
  induction hrest generalizing l a us with
  | nil =>
      obtain rfl : [] = us := Except.ok.inj h
      rfl
  | @cons link r links rest hr _ ih =>
      obtain ⟨relation, e⟩ := link
      obtain ⟨relation', t⟩ := r
      obtain ⟨rfl, ht⟩ : relation = relation' ∧ v.value t = v.meaning e := hr
      obtain ⟨u, others, hu, ho, rfl⟩ := s.links_cons_eq_ok_iff.1 h
      obtain ⟨op, hop, -, -, rfl⟩ := s.link_eq_ok_iff.1 hu
      have hcmp : v.value (.binary (.comparison op) l t .boolean) =
          (do v.compared op a (← v.meaning e)) := by
        simp only [value, hl, ht, ok_bind]
        rfl
      simp only [List.map_cons, turns, hcmp, chained, linked, hop]
      cases hb : v.meaning e with
      | error f => rfl
      | ok b =>
          -- the next link asks for `t` again and gets `b` again
          have hrest := ih (ht.trans hb) ho
          simp only [ok_bind, bind_assoc, pure_bind, hrest]
          refine bind_congr fun d => bind_congr fun t => ?_
          cases t <;> rfl

theorem value_link {s : Scope} {column : Nat} {l r u : Tree} {relation : Relation}
    (h : s.link column l relation r = .ok u) : v.value u = v.turns true [v.value u] := by
  obtain ⟨op, -, -, -, rfl⟩ := s.link_eq_ok_iff.1 h
  rw [turns_singleton]
  cases hv : v.value (.binary (.comparison op) l r .boolean) with
  | error e => rfl
  | ok d =>
      obtain ⟨a, -, hd⟩ := bind_eq_ok_iff.1 hv
      obtain ⟨b, -, hd⟩ := bind_eq_ok_iff.1 hd
      obtain ⟨t, rfl⟩ := compared_eq_ok hd
      rfl

theorem value_link_error {s : Scope} {column : Nat} {l r u : Tree} {relation : Relation}
    {e : Fault} (h : s.link column l relation r = .ok u) (hl : v.value l = .error e) :
    v.value u = .error e := by
  obtain ⟨op, -, -, -, rfl⟩ := s.link_eq_ok_iff.1 h
  simp only [value, hl]
  rfl

theorem value_comparison {s : Scope} {column : Nat} {l u : Tree} {e : Surface}
    {rest : List (Relation × Tree)} {links : List (Relation × Surface)}
    (hl : v.value l = v.meaning e) (h : s.comparison column l rest = .ok u)
    (hrest : v.KeepsLinks links rest) :
    v.value u = v.meaning e >>= fun a => v.chained a links := by
  obtain ⟨first, others, hus, rfl⟩ := s.comparison_eq_ok_iff.1 h
  cases rest with
  | nil => simp [Scope.links] at hus
  | cons r rest =>
      obtain ⟨relation, t⟩ := r
      obtain ⟨u, us, hfirst, -, heq⟩ := s.links_cons_eq_ok_iff.1 hus
      rw [(List.cons.inj heq).1] at hfirst
      have hjoined := value_joined (@value_link v _ _ _ _ _ _ hfirst) others
      rw [show BinaryOperator.and = connector true from rfl, hjoined, List.singleton_append,
        ← List.map_cons]
      cases he : v.meaning e with
      | ok a => exact turns_links (hl.trans he) hus hrest
      | error f =>
          rw [List.map_cons, value_link_error hfirst (hl.trans he)]
          rfl

/-! ### Expressions -/

theorem values_eq_meanings {ts : List Tree} {es : List Surface}
    (h : List.Forall₂ v.Keeps es ts) :
    v.values ts = v.meanings es := by
  induction h with
  | nil => rfl
  | @cons e t es ts he _ ih =>
      have hvalue : v.value t = v.meaning e := he
      simp only [values, meanings, hvalue, ih]

theorem map_value_eq_map_meaning {ts : List Tree} {es : List Surface}
    (h : List.Forall₂ v.Keeps es ts) :
    ts.map v.value = es.map v.meaning := by
  induction h with
  | nil => rfl
  | cons he _ ih => rw [List.map_cons, List.map_cons, he, ih]

variable {s : Scope}

theorem forall₂_values {es : List Surface} {ts : List Tree} (h : s.lowerAll es = .ok ts)
    (ih : ∀ e ∈ es, ∀ t, s.lower e = .ok t → v.Keeps e t) :
    List.Forall₂ v.Keeps es ts :=
  ((List.forall₂_and_left _ _).2 ⟨ih, s.lowerAll_eq_ok_iff.1 h⟩).imp (fun _ _ he => he.1 _ he.2)

theorem forall₂_linkValues {ls : List (Relation × Surface)} {rs : List (Relation × Tree)}
    (h : s.lowerLinks ls = .ok rs)
    (ih : ∀ l ∈ ls, ∀ t, s.lower l.2 = .ok t → v.Keeps l.2 t) :
    v.KeepsLinks ls rs :=
  ((List.forall₂_and_left _ _).2 ⟨ih, s.lowerLinks_eq_ok_iff.1 h⟩).imp
    (fun _ _ hl => ⟨hl.2.1, hl.1 _ hl.2.2⟩)

theorem value_connective {conjunction : Bool} {column : Nat} {es : List Surface} {ts : List Tree}
    {u : Tree} (h : s.connective column conjunction ts = .ok u)
    (hes : List.Forall₂ v.Keeps es ts) :
    v.value u = v.meaning (.connective column conjunction es) := by
  obtain ⟨-, first, rest, rfl, rfl⟩ := s.connective_eq_ok_iff.1 h
  cases rest with
  | nil =>
      obtain ⟨e, _, he, hnil, rfl⟩ := List.forall₂_cons_right_iff.1 hes
      obtain rfl := List.forall₂_nil_right_iff.1 hnil
      exact he
  | cons second rest =>
      rw [value_joined_cons, map_value_eq_map_meaning hes, ← decided_eq_turns]
      obtain ⟨e, _, he, htail, rfl⟩ := List.forall₂_cons_right_iff.1 hes
      obtain ⟨e', _, he', htail', rfl⟩ := List.forall₂_cons_right_iff.1 htail
      rfl

/-- A lowered tree has the value of the expression. -/
theorem value_lower {e : Surface} {t : Tree} (h : s.lower e = .ok t) :
    v.value t = v.meaning e := by
  induction e generalizing t with
  | constant c k =>
      rcases s.constant_eq_ok_iff.1 h with
        ⟨b, rfl, rfl⟩ | ⟨n, x, rfl, hx, rfl⟩ | ⟨x, rfl, hx, rfl⟩ | ⟨u, rfl, rfl⟩
      · rfl
      · simp only [value, meaning, literalOf, hx]
        rfl
      · rfl
      · rfl
  | name c n =>
      rcases s.name_eq_ok_iff.1 h with ⟨b, hb, rfl⟩ | ⟨hb, k, hk, rfl⟩
      · simp only [value, meaning, named, hb]
      · simp only [value, meaning, named, hb]
  | unary c op e ih =>
      obtain ⟨u, hu, h⟩ := bind_eq_ok_iff.1 h
      simp only [meaning, ← ih hu]
      rcases s.unary_eq_ok_iff.1 h with ⟨rfl, -, rfl⟩ | ⟨rfl, -, rfl⟩ | ⟨rfl, -, rfl⟩ <;> rfl
  | binary c op l r ihl ihr =>
      unfold lower at h
      cases ho : arithmetic? op with
      | none => simp [ho, refuse] at h
      | some a =>
          rw [ho] at h
          obtain ⟨t, ht, h⟩ := bind_eq_ok_iff.1 h
          obtain ⟨u, hu, h⟩ := bind_eq_ok_iff.1 h
          simp only [meaning, ho, ← ihl ht, ← ihr hu]
          rcases s.binary_eq_ok_iff.1 h with ⟨rfl, -, -, rfl⟩ | ⟨-, -, rfl⟩ <;> rfl
  | connective c b es ih =>
      obtain ⟨ts, hts, h⟩ := bind_eq_ok_iff.1 h
      exact value_connective h (forall₂_values hts (fun e he t ht => ih e he ht))
  | comparison c l ls ihl ihs =>
      obtain ⟨u, hu, h⟩ := bind_eq_ok_iff.1 h
      obtain ⟨rs, hrs, h⟩ := bind_eq_ok_iff.1 h
      exact value_comparison (ihl hu) h (forall₂_linkValues hrs (fun l hl t ht => ihs l hl ht))
  | call c target args named _ iha _ =>
      obtain ⟨f, hf, hrest⟩ := bind_eq_ok_iff.1 h
      obtain ⟨ts, hts, hcall⟩ := bind_eq_ok_iff.1 hrest
      obtain ⟨c', n, rfl⟩ := s.callee_eq_ok hf
      obtain ⟨-, -, hfind, -, -⟩ := s.callee_name_eq_ok_iff.1 hf
      obtain ⟨-, rfl⟩ := s.call_eq_ok_iff.1 hcall
      simp only [value, meaning, Registry.name_of_find? hfind,
        values_eq_meanings (forall₂_values hts (fun e he t ht => iha e he ht))]
  | other c k parts _ => simp [lower, refuse] at h

end Evaluation

def Surface.value (source : Text) (registry : Registry) (environment : Environment) (e : Surface) :
    Except Fault Datum :=
  Evaluation.meaning ⟨source, registry, environment, 0⟩ e

/-- Lowering keeps the meaning: within as many steps as the tree has nodes, the program ends with
the value or the fault of the expression as it is written. -/
theorem run_lowered_eq_value (s : Scope) {e : Surface} {t : Tree} (h : s.lower e = .ok t)
    (environment : Environment) (limit : Int) (hlimit : t.count ≤ limit) :
    Program.run ⟨s.source, t, s.registry⟩ environment limit =
      e.value s.source s.registry environment := by
  rw [Program.run_eq_value _ _ _ hlimit]
  exact Evaluation.value_lower h

/-- A chain with a call in its middle, which stands twice in the lowered tree. -/
theorem run_lowered_chain :
    let s : Scope := ⟨"0 < min(amount, 5) < 10", postingSchema, Library.registry⟩
    let e : Surface := .comparison 1 (.constant 1 (.whole 0))
      [(.lt, .call 5 (.name 5 "min") [.name 9 "amount", .constant 17 (.whole 5)] []),
        (.lt, .constant 22 (.whole 10))]
    ∃ t, s.lower e = .ok t ∧ t.count = 11 ∧ ∀ environment,
      Program.run ⟨s.source, t, s.registry⟩ environment 11 =
        e.value s.source s.registry environment :=
  ⟨_, rfl, rfl, fun environment => run_lowered_eq_value _ rfl environment 11 (by decide)⟩

end Appraisal.Formula
