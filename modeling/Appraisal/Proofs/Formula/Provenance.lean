import Appraisal.Proofs.Formula.Conformance
import Appraisal.Proofs.Formula.Value

/-!
# Where faults come from

A fault of an evaluation that does not count its steps is a message of the evaluator, a fault of a
single operation on values, or one that a function of the registry ended with by itself. The
messages are known by their first words, so none of them says that a result is not a finite number.
The functions of the library end with no fault of a formula.
-/

namespace Appraisal

open Outcome Formula

inductive Fault.IsElementary : Fault → Prop
  | refusal (r : Refusal) : IsElementary (.refusal r)
  | decimal (e : DecimalError) : IsElementary (.decimal e)
  | mismatch : IsElementary .mismatch

namespace Formula

def Registry.Raises (r : Registry) (e : Fault) : Prop :=
  ∃ f ∈ r.functions, ∃ values, f.impl.run values = .error e

/-- The messages of an evaluation, whatever the values are that it meets. -/
inductive IsReason (registry : Registry) : Text → Prop
  | complaint (t : Text) (h : IsComplaint registry t) : IsReason registry t
  | division : IsReason registry "division by zero"
  | modulo : IsReason registry "modulo by zero"
  | operator (op : Arithmetic) :
      IsReason registry ("'" ++ op.symbol ++ "' produced a non-finite result")
  | refused (f : Function) (r : Refusal) : IsReason registry (f.name ++ "(): " ++ r.message)
  | result (f : Function) : IsReason registry (f.name ++ "() produced a non-finite result")

/-! ### Complaints -/

section

variable {registry : Registry} {t : Text}

theorem isComplaint_of_mem (h : t ∈ complaintOpenings registry) : IsComplaint registry t :=
  ⟨t, h, List.isPrefixOf_iff_prefix.2 (List.prefix_refl _)⟩

theorem IsComplaint.append (h : IsComplaint registry t) (s : Text) :
    IsComplaint registry (t ++ s) := by
  obtain ⟨o, ho, hstart⟩ := h
  have hprefix : o.toList <+: t.toList := List.isPrefixOf_iff_prefix.1 hstart
  refine ⟨o, ho, List.isPrefixOf_iff_prefix.2 ?_⟩
  exact hprefix.trans (List.prefix_append _ _)

theorem isComplaint_of_word {word : String}
    (h : word ∈ ["expected ", "cannot order ", "undefined variable ", "undefined function ",
      "unsupported node ", "unsupported operator "]) : IsComplaint registry (word : Text) := by
  apply isComplaint_of_mem
  exact List.mem_append_left _ (List.mem_map_of_mem h)

theorem isComplaint_of_function {f : Function} (hf : f ∈ registry.functions) {ending : String}
    (h : ending ∈ ["() takes ", "() argument ", "() returned "]) :
    IsComplaint registry ((f.name : Text) ++ (ending : Text)) := by
  apply isComplaint_of_mem
  apply List.mem_append_right
  exact List.mem_flatMap.2 ⟨f, hf, List.mem_map_of_mem h⟩

/-! ### First words of messages -/

theorem word_eq_of_opens {w r w' r' : List Letter} (h : t.Opens w r) (h' : t.Opens w' r') :
    w = w' :=
  (Text.append_cons_inj h.2 h'.2 (h.1.symm.trans h'.1)).1

def notFinite : Text := "result is not a finite number"

theorem opens_notFinite :
    notFinite.Opens ("result".toList.map .char) ("is not a finite number".toList.map .char) := by
  decide +kernel

/-- No message of an evaluation says that its result is not finite. -/
theorem ne_notFinite (h : IsReason registry t) : t ≠ notFinite := by
  have hword : "result".toList.map Letter.char ∉ complaintWords := by decide +kernel
  have hbracket : Letter.char '(' ∉ "result".toList.map Letter.char := by decide +kernel
  have hcall (f : Function) (brackets : List Letter) :
      "result".toList.map Letter.char ≠ f.letters ++ .char '(' :: brackets := by
    intro heq
    rw [heq] at hbracket
    simp at hbracket
  intro heq
  have ht : t.Opens ("result".toList.map .char) ("is not a finite number".toList.map .char) := by
    rw [heq]
    exact opens_notFinite
  clear heq
  cases h with
  | complaint _ h =>
      obtain ⟨o, ho, hstart⟩ := h
      rcases opens_of_mem_complaintOpenings ho with ⟨w, rest, hw, hmem⟩ | ⟨f, c, rest, hw, -⟩
      · rw [(Text.eq_of_startsWith ht hw hstart).1] at hmem
        exact hword hmem
      · exact hcall f _ (Text.eq_of_startsWith ht hw hstart).1.symm
  | division => exact absurd ht.1 (by decide +kernel)
  | modulo => exact absurd ht.1 (by decide +kernel)
  | operator op =>
      revert ht
      cases op <;> decide +kernel
  | refused f r =>
      exact hcall f _ (word_eq_of_opens ht (opens_of_refused f r.message))
  | result f =>
      have hopens := @opens_of_name f "() produced a non-finite result" ("()".toList.map .char)
        ("produced a non-finite result".toList.map .char) (by decide +kernel)
      exact hcall f _ (word_eq_of_opens ht hopens)

end

/-! ### Faults of an evaluation -/

namespace Evaluation

variable (v : Evaluation)

inductive Explained : Fault → Prop
  | message (detail : Text) (h : IsReason v.registry detail) : Explained (v.failed detail)
  | elementary (e : Fault) (h : e.IsElementary) : Explained e
  | raised (e : Fault) (h : v.registry.Raises e) : Explained e

abbrev Explains {α : Type} (x : Except Fault α) : Prop := Sound v.Explained (fun _ => True) x

variable {v} {α β : Type}

theorem explains_ok (a : α) : v.Explains (.ok a) := trivial

theorem explains_message {detail : Text} (h : IsReason v.registry detail) :
    v.Explains (.error (v.failed detail) : Except Fault α) := .message detail h

theorem explains_complaint {detail : Text} (h : IsComplaint v.registry detail) :
    v.Explains (.error (v.failed detail) : Except Fault α) :=
  explains_message (.complaint detail h)

theorem explains_mismatch : v.Explains (.error .mismatch : Except Fault α) :=
  .elementary _ .mismatch

theorem explains_lift (x : Except QuantityError α) : v.Explains (Library.lift x) := by
  cases x with
  | error e => exact .elementary _ (.refusal _)
  | ok a => trivial

theorem Explains.bind {x : Except Fault α} {f : α → Except Fault β} (hx : v.Explains x)
    (hf : ∀ a, v.Explains (f a)) : v.Explains (x >>= f) :=
  Sound.bind hx (fun a _ => hf a)

theorem explains_require (k : Kind) (d : Datum) : v.Explains (v.require k d) := by
  unfold require
  split
  · exact explains_ok d
  · apply explains_complaint
    exact (((isComplaint_of_word (by simp)).append _).append _).append _

theorem explains_truth (d : Datum) : v.Explains (v.truth d) := by
  apply (explains_require .boolean d).bind
  intro d
  split
  · exact explains_ok _
  · exact explains_mismatch

theorem explains_number (d : Datum) : v.Explains (v.number d) := by
  apply (explains_require .number d).bind
  intro d
  split
  · exact explains_ok _
  · exact explains_mismatch

theorem explains_equal (a b : Datum) : v.Explains (equal a b) := by
  unfold equal
  cases a.equal b with
  | error e => exact .elementary _ (.decimal e)
  | ok r => exact explains_ok r

theorem explains_order? (a b : Datum) : v.Explains (order? a b) := by
  unfold order?
  repeat' split
  all_goals first | exact explains_ok _ | exact explains_mismatch

theorem explains_ordered (op : Comparison) (a b : Datum) : v.Explains (v.ordered op a b) := by
  unfold ordered
  split
  · apply (explains_order? a b).bind
    intro o
    exact explains_ok _
  · apply explains_complaint
    exact (((isComplaint_of_word (by simp)).append _).append _).append _

theorem explains_compared (op : Comparison) (a b : Datum) : v.Explains (v.compared op a b) := by
  have hequal (f : Bool → Datum) : v.Explains ((equal a b).map f) := by
    have h := @explains_equal v a b
    cases he : equal a b with
    | error e =>
        rw [he] at h
        exact h
    | ok r => exact explains_ok (f r)
  cases op with
  | eq => exact hequal _
  | ne => exact hequal _
  | _ => exact explains_ordered _ a b

theorem explains_quotient (op : Arithmetic) (a b : Quantity) :
    v.Explains (v.quotient op a b) := by
  cases op with
  | div =>
      simp only [quotient]
      split
      · exact explains_message .division
      · exact explains_lift _
  | mod =>
      simp only [quotient]
      split
      · exact explains_message .modulo
      · exact explains_lift _
  | _ => exact explains_lift _

theorem explains_finite (op : Arithmetic) (q : Quantity) : v.Explains (v.finite op.symbol q) := by
  apply (explains_lift q.toFloat).bind
  intro x
  split
  · exact explains_ok _
  · exact explains_message (.operator op)

theorem explains_computed (op : Arithmetic) (a b : Datum) : v.Explains (v.computed op a b) := by
  have hnumbers : v.Explains (do
      let x ← v.number a
      let y ← v.number b
      let r ← v.quotient op x y
      v.finite op.symbol r) := by
    apply (explains_number a).bind
    intro x
    apply (explains_number b).bind
    intro y
    apply (explains_quotient op x y).bind
    intro r
    exact explains_finite op r
  unfold computed
  split
  · exact explains_ok _
  · exact hnumbers

theorem explains_combined (op : BinaryOperator) (a b : Datum) :
    v.Explains (v.combined op a b) := by
  have hother (o : BinaryOperator) : v.Explains (do
      let _ ← v.number a
      let _ ← v.number b
      throw (v.failed ("unsupported operator " ++ Text.quoted o.symbol)) : Except Fault Datum) := by
    apply (explains_number a).bind
    intro x
    apply (explains_number b).bind
    intro y
    apply explains_complaint
    exact (isComplaint_of_word (by simp)).append _
  cases op with
  | comparison op => exact explains_compared op a b
  | arithmetic op => exact explains_computed op a b
  | _ => exact hother _

theorem explains_lookup (name : Text) : v.Explains (v.lookup name) := by
  unfold lookup
  split
  · exact explains_ok _
  · apply explains_complaint
    exact (isComplaint_of_word (by simp)).append _

theorem sound_function (name : Text) :
    Sound v.Explained (· ∈ v.registry.functions) (v.function name) := by
  unfold function
  split
  · rename_i f hf
    obtain ⟨s, -, hfind⟩ := Option.bind_eq_some_iff.1 hf
    exact List.mem_of_find?_eq_some hfind
  · have hword : IsComplaint v.registry (("undefined function " : String) : Text) :=
      isComplaint_of_word (by simp)
    exact .message _ (.complaint _ (hword.append _))

theorem explains_perform {f : Function} (hf : f ∈ v.registry.functions) (values : List Datum) :
    v.Explains (f.perform v.source values) := by
  unfold Function.perform
  cases h : f.impl.run values with
  | ok d => exact explains_ok d
  | error e =>
      cases e with
      | refusal r =>
          by_cases hsystem : r.family = .system
          · simp only [if_pos hsystem]
            exact .raised _ ⟨f, hf, values, h⟩
          · simp only [if_neg hsystem]
            exact explains_message (.refused f r)
      | _ => exact .raised _ ⟨f, hf, values, h⟩

theorem explains_checked {f : Function} (hf : f ∈ v.registry.functions) (result : Datum) :
    v.Explains (f.checked v.source result) := by
  have hdeclared : v.Explains (f.asDeclared result) := by
    unfold Function.asDeclared
    repeat' split
    all_goals first | exact explains_ok _ | exact .elementary _ (.refusal _)
  apply hdeclared.bind
  intro d
  cases hof : d.isOf f.returns with
  | false =>
      apply explains_complaint
      exact (((isComplaint_of_function hf (by simp)).append _).append _).append _
  | true =>
      cases d with
      | double x =>
          by_cases hx : x.isFinite = true
          · simp [hx]
          · have hresult : v.Explained
                (Function.failed v.source (f.name ++ "() produced a non-finite result")) :=
              .message _ (.result f)
            simpa [hx] using hresult
      | _ => exact explains_ok _

theorem explains_invoke {f : Function} (hf : f ∈ v.registry.functions) (args : List Datum) :
    v.Explains (f.invoke args v.source) := by
  unfold Function.invoke
  split
  · dsimp only
    split
    · apply explains_complaint
      refine IsComplaint.append (IsComplaint.append (IsComplaint.append (IsComplaint.append
        (IsComplaint.append ?_ _) _) _) _) _
      exact isComplaint_of_function hf (by simp)
    · exact (explains_perform hf _).bind (fun d => explains_checked hf d)
  · apply explains_complaint
    exact (((isComplaint_of_function hf (by simp)).append _).append _).append _

/-- Every fault of an evaluation is a message of its own, a fault of a single operation, or one that
a function of the registry ended with by itself. -/
theorem explains_value (t : Tree) : v.Explains (v.value t) := by
  induction t with
  | literal d k => exact explains_ok d
  | reference name k => exact explains_lookup name
  | unary op e k ih =>
      cases op with
      | not => exact sound_not ih (fun d _ => explains_truth d) (fun _ => trivial)
      | negate =>
          exact sound_sign (.inl rfl) ih (fun d _ => explains_number d) (fun _ _ => trivial)
            (fun _ _ => trivial)
      | plus =>
          exact sound_sign (.inr rfl) ih (fun d _ => explains_number d) (fun _ _ => trivial)
            (fun _ _ => trivial)
      | unknown s =>
          apply explains_complaint
          refine ⟨("unsupported node " : String), List.mem_append_left _ (by simp), ?_⟩
          decide +kernel
  | binary op l r k ihl ihr =>
      by_cases ho : op = .and ∨ op = .or
      · exact sound_connective ho ihl ihr (fun d _ => explains_truth d) (fun _ => trivial)
      · exact sound_binary ho ihl ihr (fun a b _ _ => explains_combined op a b)
  | call name args k ih =>
      apply (sound_function name).bind
      intro f hf
      apply (sound_values ih).bind
      intro values _
      exact explains_invoke hf values

/-- No evaluation passes a limit of steps but within a function of the registry. -/
theorem raises_of_outOfSteps {t : Tree} {source : Text} {limit : Int}
    (h : v.value t = .error (.formula (.outOfSteps source limit))) :
    v.registry.Raises (.formula (.outOfSteps source limit)) := by
  have hexplains := @explains_value v t
  rw [h] at hexplains
  cases hexplains with
  | elementary _ he => cases he
  | raised _ hr => exact hr

theorem raises_of_notFinite {t : Tree} (h : v.value t = .error (v.failed notFinite)) :
    v.registry.Raises (v.failed notFinite) := by
  have hexplains := @explains_value v t
  rw [h] at hexplains
  generalize he : v.failed notFinite = e at hexplains
  cases hexplains with
  | message detail hd =>
      obtain ⟨-, rfl⟩ := FormulaError.failed.inj (Fault.formula.inj he)
      exact absurd rfl (ne_notFinite hd)
  | elementary _ hf =>
      subst he
      cases hf
  | raised _ hr => exact hr

end Evaluation

/-! ### The library -/

namespace Library

open Quantity

abbrev IsNative {α : Type} (x : Except Fault α) : Prop :=
  Sound Fault.IsElementary (fun _ => True) x

variable {α β : Type}

theorem isNative_ok (a : α) : IsNative (.ok a) := trivial

theorem isNative_mismatch : IsNative (.error .mismatch : Except Fault α) := Fault.IsElementary.mismatch

theorem isNative_of_isCaught {P : α → Prop} {x : Except Fault α} (h : Sound IsCaught P x) :
    IsNative x := by
  refine h.mono ?_ (fun _ _ => trivial)
  rintro e ⟨r, rfl, -⟩
  exact .refusal r

theorem isNative_lift (x : Except QuantityError α) : IsNative (lift x) :=
  isNative_of_isCaught (@sound_lift_true _ x)

theorem IsNative.bind {x : Except Fault α} {f : α → Except Fault β} (hx : IsNative x)
    (hf : ∀ a, IsNative (f a)) : IsNative (x >>= f) :=
  Sound.bind hx (fun a _ => hf a)

theorem IsNative.map {x : Except Fault α} (hx : IsNative x) (f : α → β) : IsNative (x.map f) := by
  cases x with
  | error e => exact hx
  | ok a => exact isNative_ok (f a)

theorem isNative_numeric {names : List String} {run : List Quantity → Except Fault Quantity}
    (h : ∀ qs, IsNative (run qs)) (values : List Datum) :
    IsNative ((numeric names run).run values) := by
  simp only [numeric]
  split
  · exact (h _).map _
  · exact isNative_mismatch

theorem isNative_unary {names : List String} {f : Quantity → Except Fault Quantity}
    (h : ∀ x, IsNative (f x)) (values : List Datum) : IsNative ((unary names f).run values) := by
  apply isNative_numeric
  intro qs
  split
  · exact h _
  · exact isNative_mismatch

theorem isNative_binary {names : List String} {f : Quantity → Quantity → Except Fault Quantity}
    (h : ∀ x y, IsNative (f x y)) (values : List Datum) :
    IsNative ((binary names f).run values) := by
  apply isNative_numeric
  intro qs
  split
  · exact h _ _
  · exact isNative_mismatch

theorem isNative_ternary {names : List String}
    {f : Quantity → Quantity → Quantity → Except Fault Quantity}
    (h : ∀ x y z, IsNative (f x y z)) (values : List Datum) :
    IsNative ((ternary names f).run values) := by
  apply isNative_numeric
  intro qs
  split
  · exact h _ _ _
  · exact isNative_mismatch

theorem isNative_textual {names : List String} {f : Text → Text → Datum} (values : List Datum) :
    IsNative ((textual names f).run values) := by
  simp only [textual]
  split
  · exact isNative_ok _
  · exact isNative_mismatch

theorem isNative_choose (values : List Datum) : IsNative (choose values) := by
  unfold choose
  split
  · exact isNative_ok _
  · exact isNative_mismatch

theorem isNative_power (x y : Quantity) : IsNative (power x y) :=
  isNative_of_isCaught (sound_power x y)

theorem isNative_compoundInterest (p r d n : Quantity) : IsNative (compoundInterest p r d n) := by
  apply (isNative_lift _).bind
  intro years
  apply (isNative_lift _).bind
  intro share
  apply (isNative_lift _).bind
  intro growth
  apply (isNative_lift _).bind
  intro base
  apply (isNative_lift _).bind
  intro exponent
  apply (isNative_power base exponent).bind
  intro factor
  exact isNative_lift _

theorem isNative_integralPart (f : Float → Except NotIntegral Int) (x : Quantity) :
    IsNative (integralPart f x) := by
  cases x with
  | whole n => exact (isNative_lift _).map _
  | double x => exact isNative_of_isCaught (sound_integralPart f x)

/-- No function of the library ends with another fault than one of a single operation. -/
theorem isElementary_of_raises {e : Fault} (h : registry.Raises e) : e.IsElementary := by
  have hall : ∀ f ∈ functions, ∀ values, IsNative (f.impl.run values) := by
    simp only [functions, List.forall_mem_cons]
    refine ⟨?_, ?_, ?_, ?_, ?_, ?_, ?_, ?_, ?_, ?_, ?_, ?_, ?_, ?_, ?_, ?_, ?_, ?_⟩
    · exact isNative_ternary (fun p r d => isNative_lift _)
    · refine isNative_numeric (fun qs => ?_)
      split
      · exact isNative_compoundInterest _ _ _ _
      · exact isNative_mismatch
    · exact isNative_ternary (fun p r d => isNative_lift _)
    · exact isNative_ternary (fun p r d => isNative_lift _)
    · exact isNative_binary (fun a b => isNative_ok _)
    · exact isNative_binary (fun a b => isNative_ok _)
    · exact isNative_unary (fun x => isNative_ok _)
    · exact isNative_unary (isNative_integralPart floorInt)
    · exact isNative_unary (isNative_integralPart ceilInt)
    · exact isNative_unary (fun x => isNative_ok _)
    · exact isNative_binary isNative_power
    · exact isNative_unary (fun x => isNative_of_isCaught (sound_squareRoot x))
    · exact isNative_ternary (fun v l h => isNative_ok _)
    · exact isNative_choose
    · exact isNative_textual
    · exact isNative_textual
    · exact isNative_textual
    · exact fun f hf => absurd hf List.not_mem_nil
  obtain ⟨f, hf, values, hrun⟩ := h
  have hnative := hall f hf values
  rw [hrun] at hnative
  exact hnative

end Library

end Formula

end Appraisal
