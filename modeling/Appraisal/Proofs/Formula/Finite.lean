import Appraisal.Proofs.Formula.Provenance
import Appraisal.Proofs.Formula.Soundness

/-!
# Finite numbers

Every operation of an evaluation gives a finite number or fails, except the signs, which keep a number
finite, and the look-up of a variable. The literals of a compiled formula are finite. So where all
variables are finite, every number is finite that any part of the formula gives, and no result is
refused because it is not.
-/

namespace Appraisal

open Outcome

def Datum.IsFinite : Datum → Prop
  | .double x => x.isFinite = true
  | _ => True

@[simp] theorem Datum.isFinite_double {x : Float} :
    (Datum.double x).IsFinite ↔ x.isFinite = true := Iff.rfl

namespace Formula

def Environment.IsFinite (environment : Environment) : Prop :=
  ∀ name d, environment name = some d → d.IsFinite

structure Context.IsFinite (c : Context) : Prop where
  amount : c.amount.isFinite = true
  quantity : c.quantity.isFinite = true
  daysHeld : c.daysHeld.isFinite = true
  monthsHeld : c.monthsHeld.isFinite = true
  yearsHeld : c.yearsHeld.isFinite = true

theorem Context.IsFinite.lookup {c : Context} (h : c.IsFinite) :
    Environment.IsFinite c.lookup? := by
  have hvalues : ∀ value ∈ c.values, value.2.IsFinite := by
    simp only [Context.values, List.forall_mem_cons]
    exact ⟨h.amount, h.quantity, trivial, h.daysHeld, h.monthsHeld, h.yearsHeld, trivial, trivial,
      trivial, fun _ hnone => absurd hnone List.not_mem_nil⟩
  intro name d hd
  exact hvalues _ (mem_of_lookup hd)

/-! ### Parts of a tree -/

/-- The trees that stand in a tree, the tree itself among them. -/
inductive Tree.IsPart (u : Tree) : Tree → Prop
  | self : IsPart u u
  | operand {op : UnaryOperator} {t : Tree} {k : Kind} (h : IsPart u t) : IsPart u (.unary op t k)
  | left {op : BinaryOperator} {l r : Tree} {k : Kind} (h : IsPart u l) :
      IsPart u (.binary op l r k)
  | right {op : BinaryOperator} {l r : Tree} {k : Kind} (h : IsPart u r) :
      IsPart u (.binary op l r k)
  | argument {name : Text} {args : List Tree} {k : Kind} {t : Tree} (ht : t ∈ args)
      (h : IsPart u t) : IsPart u (.call name args k)

theorem Tree.IsPart.wellKinded {schema : Schema} {registry : Registry} {u t : Tree}
    (h : u.IsPart t) (ht : t.WellKinded schema registry) : u.WellKinded schema registry := by
  induction h with
  | self => exact ht
  | operand _ ih =>
      cases ht with
      | sign op t ho h hk => exact ih h
      | not t h hk => exact ih h
  | left _ ih =>
      cases ht with
      | concatenation l r hl hr hlk hrk => exact ih hl
      | arithmetic op l r hl hr hlk hrk => exact ih hl
      | comparison op l r hl hr hk ho => exact ih hl
      | connective op l r ho hl hr hlk hrk => exact ih hl
  | right _ ih =>
      cases ht with
      | concatenation l r hl hr hlk hrk => exact ih hr
      | arithmetic op l r hl hr hlk hrk => exact ih hr
      | comparison op l r hl hr hk ho => exact ih hr
      | connective op l r ho hl hr hlk hrk => exact ih hr
  | argument hmem _ ih =>
      cases ht with
      | call f args hf hmin hmax hargs hk => exact ih (hargs _ hmem)

/-! ### Operations -/

abbrev GivesFinite (x : Except Fault Datum) : Prop := Sound (fun _ => True) Datum.IsFinite x

theorem finite_truth (b : Bool) : GivesFinite (.ok (.truth b)) := trivial

theorem finite_error (e : Fault) : GivesFinite (.error e) := trivial

/-- A computation that is followed by one whose value is finite, whatever it starts from. -/
theorem finite_bind {α : Type} {x : Except Fault α} {f : α → Except Fault Datum}
    (h : ∀ a, GivesFinite (f a)) : GivesFinite (x >>= f) := by
  cases x with
  | error e => exact finite_error e
  | ok a => exact h a

namespace Function

variable (f : Function) (source : Text)

theorem finite_checked (result : Datum) : GivesFinite (f.checked source result) := by
  unfold checked
  apply finite_bind
  intro d
  by_cases hof : d.isOf f.returns = true
  · cases d with
    | double x =>
        by_cases hx : x.isFinite = true
        · simp [hof, hx]
        · simp [hof, hx]
    | _ => simp [hof, Datum.IsFinite]
  · simp [hof]

/-- A number that a function gives is finite, whatever its arguments are. -/
theorem finite_invoke (args : List Datum) : GivesFinite (f.invoke args source) := by
  unfold invoke
  split
  · dsimp only
    split
    · exact finite_error _
    · exact finite_bind (f.finite_checked source)
  · exact finite_error _

end Function

namespace Evaluation

variable {v : Evaluation}

theorem finite_number {d : Datum} (h : d.IsFinite) :
    Sound (fun _ => True) (fun q => (Datum.ofQuantity q).IsFinite) (v.number d) := by
  unfold number require
  split
  · cases d with
    | double x => exact h
    | _ => trivial
  · trivial

theorem isFinite_negate {q : Quantity} (h : (Datum.ofQuantity q).IsFinite) :
    (Datum.ofQuantity q.negate).IsFinite := by
  cases q with
  | whole n => trivial
  | double x =>
      have hx : x.isFinite = true := h
      have hneg : (-x).isFinite = true := by
        rw [Binary.isFinite_neg]
        exact hx
      exact hneg

theorem finite_finite (symbol : String) (q : Quantity) : GivesFinite (v.finite symbol q) := by
  unfold finite
  apply finite_bind
  intro x
  by_cases hx : x.isFinite = true
  · simp [hx]
  · simp [hx]

theorem finite_computed (op : Arithmetic) (a b : Datum) : GivesFinite (v.computed op a b) := by
  unfold computed
  split
  · trivial
  · apply finite_bind
    intro x
    apply finite_bind
    intro y
    apply finite_bind
    intro r
    exact finite_finite _ r

theorem finite_compared (op : Comparison) (a b : Datum) : GivesFinite (v.compared op a b) := by
  have hordered : GivesFinite (v.ordered op a b) := by
    unfold ordered
    split
    · apply finite_bind
      intro o
      exact finite_truth _
    · exact finite_error _
  unfold compared
  cases op with
  | eq => cases equal a b <;> trivial
  | ne => cases equal a b <;> trivial
  | _ => exact hordered

/-- The value of a tree is finite where all variables are. -/
theorem finite_value {schema : Schema} (hv : v.environment.IsFinite) {t : Tree}
    (h : t.WellKinded schema v.registry) : GivesFinite (v.value t) := by
  induction h with
  | truth b => exact finite_truth b
  | text t => trivial
  | number x hx => exact hx
  | reference n k hk =>
      unfold value lookup
      cases hn : v.environment n with
      | none => exact finite_error _
      | some d => exact hv n d hn
  | sign op t ho ht hk ih =>
      exact sound_sign ho ih (fun d => finite_number) (fun q => isFinite_negate) (fun q hq => hq)
  | not t ht hk ih => exact sound_not ih (fun d _ => sound_trivial _) finite_truth
  | concatenation l r hl hr hlk hrk ihl ihr =>
      exact sound_binary (by simp) ihl ihr (fun a b _ _ => finite_computed .add a b)
  | arithmetic op l r hl hr hlk hrk ihl ihr =>
      exact sound_binary (by simp) ihl ihr (fun a b _ _ => finite_computed op a b)
  | comparison op l r hl hr hk ho ihl ihr =>
      exact sound_binary (by simp) ihl ihr (fun a b _ _ => finite_compared op a b)
  | connective op l r ho hl hr hlk hrk ihl ihr =>
      exact sound_connective ho ihl ihr (fun d _ => sound_trivial _) finite_truth
  | call f args hf hmin hmax hargs hk ih =>
      apply finite_bind
      intro g
      apply finite_bind
      intro values
      exact g.finite_invoke v.source values

/-- An evaluation that counts its steps gives no other value. -/
theorem value_of_eval {t : Tree} {k k' : Nat} {d : Datum} (h : v.eval t k = .ok (d, k')) :
    v.value t = .ok d := by
  rcases @follows_eval v t k with ⟨he, -⟩ | ⟨n, -, he⟩
  · rw [he] at h
    cases h
  · rw [he] at h
    cases hx : v.value t with
    | error e =>
        rw [hx] at h
        cases h
    | ok d' =>
        rw [hx] at h
        cases h
        rfl

end Evaluation

namespace Program

variable {p : Program} {environment : Environment} {limit : Int}

/-- No value of a part of the tree is infinite or no number, wherever the evaluation of the part starts
to count, and neither is that of the program. So its result is not refused for this; what is left are
functions that end with this message by themselves. -/
structure StaysFinite (p : Program) (environment : Environment) (limit : Int) : Prop where
  part : ∀ t, t.IsPart p.root → ∀ k d k',
    Evaluation.eval ⟨p.source, p.registry, environment, limit⟩ t k = .ok (d, k') → d.IsFinite
  run : ∀ d, p.run environment limit = .ok d → d.IsFinite
  runNumeric : p.runNumeric environment limit = .error (.formula (.failed p.source notFinite)) →
    p.registry.Raises (.formula (.failed p.source notFinite))

theorem isFinite_of_numeric {d : Datum} {x : Float} (h : p.numeric d = .ok x) :
    x.isFinite = true := by
  unfold numeric at h
  cases hq : d.quantity? with
  | none =>
      rw [hq] at h
      cases h
  | some q =>
      simp only [hq] at h
      obtain ⟨y, -, hy⟩ := bind_eq_ok_iff.1 h
      split at hy
      · rename_i hfinite
        rw [← Except.ok.inj hy]
        exact hfinite
      · cases hy

/-- Of all results, those and only those that are not finite are refused for it. -/
theorem numeric_eq_notFinite_iff {d : Datum} :
    p.numeric d = .error (.formula (.failed p.source notFinite)) ↔ ¬ d.IsFinite := by
  unfold numeric
  cases d with
  | whole n =>
      simp only [Datum.quantity?, Quantity.toFloat]
      cases hn : floatOfInt? n with
      | none => simp [Library.lift, Datum.IsFinite]
      | some x =>
          have hx : x.isFinite = true := (floatOfInt?_eq_some_iff.1 hn).1
          simp [Library.lift, hx, Datum.IsFinite]
  | double x =>
      by_cases hx : x.isFinite = true
      · simp [Datum.quantity?, Quantity.toFloat, Library.lift, hx]
      · simp [Datum.quantity?, Quantity.toFloat, Library.lift, hx, notFinite]
  | _ => simp [Datum.quantity?, Datum.IsFinite]

/-- A run gives no message that its result is not finite, but one of a function. -/
theorem raises_of_run_eq_notFinite
    (h : p.run environment limit = .error (.formula (.failed p.source notFinite))) :
    p.registry.Raises (.formula (.failed p.source notFinite)) := by
  rcases p.run_eq_outOfSteps_or_value environment limit with ⟨hsteps, -⟩ | hvalue
  · rw [h] at hsteps
    cases hsteps
  · rw [h] at hvalue
    exact @Evaluation.raises_of_notFinite ⟨p.source, p.registry, environment, 0⟩ p.root hvalue.symm

theorem staysFinite_of_wellKinded {schema : Schema} (h : p.root.WellKinded schema p.registry)
    (he : environment.IsFinite) : p.StaysFinite environment limit := by
  have hpart : ∀ t, t.IsPart p.root → ∀ k d k',
      Evaluation.eval ⟨p.source, p.registry, environment, limit⟩ t k = .ok (d, k') →
        d.IsFinite := by
    intro t ht k d k' heval
    have hvalue := Evaluation.value_of_eval heval
    have hfinite := @Evaluation.finite_value ⟨p.source, p.registry, environment, limit⟩ schema he t
      (ht.wellKinded h)
    rw [hvalue] at hfinite
    exact hfinite
  have hrun : ∀ d, p.run environment limit = .ok d → d.IsFinite := by
    intro d hd
    unfold Program.run at hd
    cases heval : Evaluation.eval ⟨p.source, p.registry, environment, limit⟩ p.root 0 with
    | error e =>
        rw [heval] at hd
        cases hd
    | ok r =>
        rw [heval] at hd
        cases hd
        exact hpart p.root .self 0 r.1 r.2 heval
  refine ⟨hpart, hrun, ?_⟩
  intro hnumeric
  unfold Program.runNumeric at hnumeric
  cases hr : p.run environment limit with
  | ok d =>
      rw [hr, ok_bind] at hnumeric
      exact absurd (hrun d hr) (numeric_eq_notFinite_iff.1 hnumeric)
  | error e =>
      rw [hr, error_bind] at hnumeric
      rw [Except.error.inj hnumeric] at hr
      exact raises_of_run_eq_notFinite hr

end Program

/-- Only variables bring in what is infinite or no number. Where all variables of a compiled formula
are finite, so is every number that a part of the formula gives in a run, and the result; whatever the
functions of the registry give, the result is then not refused for not being finite. Whatever the
variables are, the number that a program ends with is finite: a result that is not is refused. -/
theorem compiled_stays_finite :
    (∀ (source : Text) (schema : Schema) (registry : Registry) (nodeLimit : Int) (p : Program),
      compile source schema registry nodeLimit = .ok p →
      ∀ (environment : Environment) (limit : Int), environment.IsFinite →
        p.StaysFinite environment limit) ∧
    (∀ c : Context, c.IsFinite → Environment.IsFinite c.lookup?) ∧
    (∀ source, ¬ Library.registry.Raises (.formula (.failed source notFinite))) ∧
    (∀ (p : Program) (environment : Environment) (limit : Int) (x : Float),
      p.runNumeric environment limit = .ok x → x.isFinite = true) ∧
    ∀ (p : Program) (environment : Environment) (limit : Int) (d : Datum),
      p.run environment limit = .ok d → ¬ d.IsFinite →
      p.runNumeric environment limit = .error (.formula (.failed p.source notFinite)) := by
  refine ⟨?_, ?_, ?_, ?_, ?_⟩
  · intro source schema registry nodeLimit p hp environment limit he
    obtain ⟨-, rfl, hroot⟩ := wellKinded_of_compile hp
    exact Program.staysFinite_of_wellKinded hroot he
  · intro c hc
    exact hc.lookup
  · intro source h
    cases Library.isElementary_of_raises h
  · intro p environment limit x h
    obtain ⟨d, -, hd⟩ := bind_eq_ok_iff.1 h
    exact Program.isFinite_of_numeric hd
  · intro p environment limit d hd hnone
    unfold Program.runNumeric
    rw [hd, ok_bind]
    exact Program.numeric_eq_notFinite_iff.2 hnone

def heldUnit : Context := ⟨10000, 1, .newYear2024, 30, 1, 0, "", "", "INR"⟩

def negated : Program :=
  ⟨"-amount", .unary .negate (.reference "amount" .number) .number, Library.registry⟩

/-- A formula on this context stays finite. An amount that is no number keeps being none with the
other sign, and the result is refused. -/
theorem heldUnit_stays_finite :
    heldUnit.IsFinite ∧
    ∃ p, compile "-amount / 3 + min(days_held, 1e300) * quantity" = .ok p ∧
      p.StaysFinite heldUnit.lookup? defaultStepLimit ∧
      (∀ x, p.runNumeric heldUnit.lookup? = .ok x → x.isFinite = true) ∧
      negated.runNumeric { heldUnit with amount := Binary.toFloat .nan }.lookup? =
        .error (.formula (.failed "-amount" notFinite)) := by
  obtain ⟨hcompiled, hcontext, -, hnumber, hrefused⟩ := compiled_stays_finite
  have hfinite : heldUnit.IsFinite := by
    constructor <;> decide +kernel
  obtain ⟨p, hp⟩ :
      ∃ p, compile "-amount / 3 + min(days_held, 1e300) * quantity" = .ok p := by
    apply exists_eq_ok_of_isSome
    decide +kernel
  refine ⟨hfinite, p, hp, ?_, ?_, ?_⟩
  · exact hcompiled _ _ _ _ p hp _ _ (hcontext heldUnit hfinite)
  · intro x hx
    exact hnumber p _ _ x hx
  · have hrun : negated.run { heldUnit with amount := Binary.toFloat .nan }.lookup? =
        .ok (.double (-Binary.toFloat .nan)) := rfl
    apply hrefused _ _ _ _ hrun
    rw [Datum.isFinite_double]
    decide +kernel

end Formula

end Appraisal
