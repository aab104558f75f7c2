import Appraisal.Proofs.Formula.Finite

/-!
# Trees that nobody has checked

A tree can be made by hand: its operators may be any words, its names may stand for nothing, its
calls may have any number of arguments, and its annotations need not be right. As long as its
literals are values, a run of it on a context gives a value or fails with a message of its own. No
operation meets a value that it does not know, since each of them checks its operands first.
-/

namespace Appraisal

open Outcome

def Datum.IsFormulaValue (d : Datum) : Prop := ∃ k, d.IsValue k

theorem Datum.IsFormulaValue.isValue {d : Datum} (h : d.IsFormulaValue) {k : Kind}
    (hk : d.isOf k = true) : d.IsValue k := by
  obtain ⟨k', hd⟩ := h
  have hkind : some k' = some k := hd.kind?_eq ▸ of_decide_eq_true hk
  rwa [← Option.some.inj hkind]

namespace Formula

/-- Every literal of the tree is a value. Nothing else of the tree is checked. -/
def Tree.HasValues (t : Tree) : Prop :=
  ∀ d k, (Tree.literal d k).IsPart t → d.IsFormulaValue

def Environment.HasValues (environment : Environment) : Prop :=
  ∀ name d, environment name = some d → d.IsFormulaValue

theorem Context.hasValues (c : Context) : Environment.HasValues c.lookup? := by
  have hvalues : ∀ value ∈ c.values, value.2.IsFormulaValue := by
    simp only [Context.values, List.forall_mem_cons]
    exact ⟨⟨_, .number _⟩, ⟨_, .number _⟩, ⟨_, .date _⟩, ⟨_, .number _⟩, ⟨_, .number _⟩,
      ⟨_, .number _⟩, ⟨_, .string _⟩, ⟨_, .string _⟩, ⟨_, .string _⟩,
      fun _ hnone => absurd hnone List.not_mem_nil⟩
  intro name d hd
  exact hvalues _ (mem_of_lookup hd)

theorem IsReason.of_isFailure {registry : Registry} {detail : Text}
    (h : IsFailure registry detail) : IsReason registry detail := by
  cases h with
  | division => exact .division
  | modulo => exact .modulo
  | operator op => exact .operator op
  | refused f hf values hv r hr _ => exact .refused f r
  | result f hf => exact .result f

/-! ### Operations -/

namespace Evaluation

def Reasoned (v : Evaluation) (e : Fault) : Prop :=
  ∃ detail, IsReason v.registry detail ∧ e = v.failed detail

variable {v : Evaluation}

theorem reasoned_of_fails {e : Fault} (h : Fails v.registry v.source e) : v.Reasoned e := by
  obtain ⟨detail, hdetail, rfl⟩ := h
  exact ⟨detail, .of_isFailure hdetail, rfl⟩

theorem reasoned_of_complaint {detail : Text} (h : IsComplaint v.registry detail) :
    v.Reasoned (v.failed detail) :=
  ⟨detail, .complaint detail h, rfl⟩

theorem reasoned_of_word {word : String} {rest : Text}
    (h : word ∈ ["expected ", "cannot order ", "undefined variable ", "undefined function ",
      "unsupported node ", "unsupported operator "]) : v.Reasoned (v.failed (word ++ rest)) :=
  reasoned_of_complaint ((isComplaint_of_word h).append rest)

/-- An operand that is asked for by its kind has it, or the evaluation says so. -/
theorem sound_require {d : Datum} (h : d.IsFormulaValue) (k : Kind) :
    Sound v.Reasoned (Datum.IsValue k) (v.require k d) := by
  unfold require
  split
  · rename_i hk
    exact h.isValue hk
  · apply reasoned_of_complaint
    exact (((isComplaint_of_word (by simp)).append _).append _).append _

theorem sound_truth {d : Datum} (h : d.IsFormulaValue) :
    Sound v.Reasoned (fun _ => True) (v.truth d) := by
  apply (sound_require h .boolean).bind
  intro d hd
  cases hd with
  | boolean b => trivial

theorem sound_number {d : Datum} (h : d.IsFormulaValue) :
    Sound v.Reasoned Quantity.IsDouble (v.number d) := by
  apply (sound_require h .number).bind
  intro d hd
  cases hd with
  | number x => exact ⟨x, rfl⟩

theorem sound_ordered (op : Comparison) {a b : Datum} (ha : a.IsFormulaValue)
    (hb : b.IsFormulaValue) : Sound v.Reasoned Datum.IsFormulaValue (v.ordered op a b) := by
  obtain ⟨k, ha⟩ := ha
  obtain ⟨k', hb⟩ := hb
  by_cases hk : k = k' ∧ k ≠ .boolean
  · obtain ⟨rfl, hk⟩ := hk
    obtain ⟨r, hr⟩ := @ordered_eq_ok v op k a b ha hb hk
    rw [hr]
    exact ⟨_, .boolean r⟩
  · have hnot : ¬ (a.kind?.isSome && a.kind? = b.kind? && a.kind? ≠ some .boolean) = true := by
      rw [ha.kind?_eq, hb.kind?_eq]
      simpa using hk
    unfold ordered
    rw [if_neg hnot]
    apply reasoned_of_complaint
    exact (((isComplaint_of_word (by simp)).append _).append _).append _

theorem sound_compared (op : Comparison) {a b : Datum} (ha : a.IsFormulaValue)
    (hb : b.IsFormulaValue) : Sound v.Reasoned Datum.IsFormulaValue (v.compared op a b) := by
  have hequal (f : Bool → Bool) :
      Sound v.Reasoned Datum.IsFormulaValue ((equal a b).map (fun r => .truth (f r))) := by
    obtain ⟨k, ha⟩ := ha
    obtain ⟨k', hb⟩ := hb
    obtain ⟨r, hr⟩ := equal_eq_ok ha hb
    rw [hr]
    exact ⟨_, .boolean (f r)⟩
  cases op with
  | eq => exact hequal id
  | ne => exact hequal Bool.not
  | _ => exact sound_ordered _ ha hb

theorem sound_computed_of_values (op : Arithmetic) {a b : Datum} (ha : a.IsFormulaValue)
    (hb : b.IsFormulaValue) : Sound v.Reasoned Datum.IsFormulaValue (v.computed op a b) := by
  have hnumbers : Sound v.Reasoned Datum.IsFormulaValue (do
      let x ← v.number a
      let y ← v.number b
      let z ← v.quotient op x y
      v.finite op.symbol z) := by
    apply (sound_number ha).bind
    rintro _ ⟨x, rfl⟩
    apply (sound_number hb).bind
    rintro _ ⟨y, rfl⟩
    apply ((sound_quotient op x y).mono (fun _ => reasoned_of_fails) (fun _ hq => hq)).bind
    rintro _ ⟨z, rfl⟩
    exact (sound_finite op z).mono (fun _ => reasoned_of_fails) (fun _ hd => ⟨_, hd⟩)
  unfold computed
  split
  · exact ⟨_, .string _⟩
  · exact hnumbers

theorem sound_combined (op : BinaryOperator) {a b : Datum} (ha : a.IsFormulaValue)
    (hb : b.IsFormulaValue) : Sound v.Reasoned Datum.IsFormulaValue (v.combined op a b) := by
  have hother (o : BinaryOperator) : Sound v.Reasoned Datum.IsFormulaValue (do
      let _ ← v.number a
      let _ ← v.number b
      throw (v.failed ("unsupported operator " ++ Text.quoted o.symbol)) : Except Fault Datum) := by
    apply (sound_number ha).bind
    intro _ _
    apply (sound_number hb).bind
    intro _ _
    exact reasoned_of_word (by simp)
  cases op with
  | comparison op => exact sound_compared op ha hb
  | arithmetic op => exact sound_computed_of_values op ha hb
  | _ => exact hother _

theorem sound_lookup (h : v.environment.HasValues) (name : Text) :
    Sound v.Reasoned Datum.IsFormulaValue (v.lookup name) := by
  unfold lookup
  split
  · rename_i d hd
    exact h name d hd
  · exact reasoned_of_word (by simp)

theorem sound_function_of_name (name : Text) :
    Sound v.Reasoned (· ∈ v.registry.functions) (v.function name) := by
  unfold function
  split
  · rename_i f hf
    obtain ⟨s, -, hfind⟩ := Option.bind_eq_some_iff.1 hf
    exact List.mem_of_find?_eq_some hfind
  · exact reasoned_of_word (by simp)

/-! ### Calls -/

/-- Arguments that no check objects to have the kinds of their parameters. -/
theorem forall₂_of_misfit? {ks : List Kind} {args rest : List Datum} {position : Nat}
    (hargs : ∀ d ∈ args, d.IsFormulaValue) (hlength : args.length ≤ ks.length)
    (h : misfit? position ks (args ++ rest) = none) :
    List.Forall₂ Datum.IsValue (ks.take args.length) args := by
  induction args generalizing ks position with
  | nil => exact .nil
  | cons d args ih =>
      cases ks with
      | nil => simp at hlength
      | cons k ks =>
          rw [List.forall_mem_cons] at hargs
          rw [List.cons_append, misfit?] at h
          split at h
          · rename_i hk
            exact .cons (hargs.1.isValue hk) (ih hargs.2 (by simpa using hlength) h)
          · cases h

/-- A call with any values, however many, gives a value of the declared kind or fails. -/
theorem sound_invoke_of_values {f : Function} (hmem : f ∈ v.registry.functions)
    (hf : f.Conforms) {args : List Datum} (hargs : ∀ d ∈ args, d.IsFormulaValue) :
    Sound v.Reasoned (Datum.IsValue f.returns) (f.invoke args v.source) := by
  by_cases haccepts : f.accepts args.length = true
  · obtain ⟨hmin, hmax⟩ := Scope.accepts_iff.1 haccepts
    cases hmisfit : misfit? 1 f.params (f.filled args) with
    | none =>
        have hkinds := forall₂_of_misfit? hargs hmax hmisfit
        exact (Function.sound_invoke hmem hf hmin hmax hkinds v.source).mono
          (fun _ => reasoned_of_fails) (fun _ hd => hd)
    | some m =>
        obtain ⟨position, k, d⟩ := m
        unfold Function.invoke
        simp only [haccepts, if_true, hmisfit]
        apply reasoned_of_complaint
        refine IsComplaint.append (IsComplaint.append (IsComplaint.append (IsComplaint.append
          (IsComplaint.append ?_ _) _) _) _) _
        exact isComplaint_of_function hmem (by simp)
  · unfold Function.invoke
    rw [if_neg haccepts]
    apply reasoned_of_complaint
    exact (((isComplaint_of_function hmem (by simp)).append _).append _).append _

/-! ### Trees -/

/-- Evaluating a tree, whatever its operators, names and annotations are, gives a value or fails. -/
theorem sound_value_of_hasValues (hfunctions : ∀ f ∈ v.registry.functions, f.Conforms)
    (henv : v.environment.HasValues) {t : Tree} (h : t.HasValues) :
    Sound v.Reasoned Datum.IsFormulaValue (v.value t) := by
  induction t with
  | literal d k => exact h d k .self
  | reference name k => exact sound_lookup henv name
  | unary op e k ih =>
      have hoperand := ih (fun d k' hpart => h d k' (.operand hpart))
      have hsign (ho : op = .negate ∨ op = .plus) :
          Sound v.Reasoned Datum.IsFormulaValue (v.value (.unary op e k)) := by
        refine sound_sign ho hoperand (fun d => sound_number) ?_ ?_
        · rintro _ ⟨x, rfl⟩
          exact ⟨-x, rfl⟩
        · rintro _ ⟨x, rfl⟩
          exact ⟨_, .number x⟩
      cases op with
      | not => exact sound_not hoperand (fun d => sound_truth) (fun b => ⟨_, .boolean b⟩)
      | negate => exact hsign (.inl rfl)
      | plus => exact hsign (.inr rfl)
      | unknown s => exact @reasoned_of_word v "unsupported node " "UnaryOp" (by simp)
  | binary op l r k ihl ihr =>
      have hleft := ihl (fun d k' hpart => h d k' (.left hpart))
      have hright := ihr (fun d k' hpart => h d k' (.right hpart))
      by_cases ho : op = .and ∨ op = .or
      · exact sound_connective ho hleft hright (fun d => sound_truth) (fun b => ⟨_, .boolean b⟩)
      · exact sound_binary ho hleft hright (fun a b => sound_combined op)
  | call name args k ih =>
      have hargs : ∀ t ∈ args, Sound v.Reasoned Datum.IsFormulaValue (v.value t) :=
        fun t ht => ih t ht (fun d k' hpart => h d k' (.argument ht hpart))
      apply (sound_function_of_name name).bind
      intro f hf
      apply (sound_values hargs).bind
      intro ds hds
      have hvalues (d : Datum) (hd : d ∈ ds) : d.IsFormulaValue := by
        obtain ⟨t, -, hvalue⟩ := exists_mem_of_forall₂ hds hd
        exact hvalue
      exact (sound_invoke_of_values hf (hfunctions f hf) hvalues).mono (fun _ he => he)
        (fun _ hd => ⟨_, hd⟩)

end Evaluation

/-! ### Runs -/

def runtimeSort : String := "FormulaRuntimeError"

/-- A run of a tree that nobody has checked, on a context and with the functions of the library, gives
a value, passes its limit, which it does only if the tree has more nodes, or fails with one of the
messages of an evaluation. So every fault of it is one of a formula that runs. -/
theorem run_unchecked_isValue_or_fails (source : Text) {root : Tree} (h : root.HasValues)
    (c : Context) (limit : Int) :
    let p : Program := ⟨source, root, Library.registry⟩
    ((∃ d k, p.run c.lookup? limit = .ok d ∧ d.IsValue k) ∨
      (p.run c.lookup? limit = .error (.formula (.outOfSteps source limit)) ∧ limit < root.count) ∨
      ∃ detail, IsReason Library.registry detail ∧
        p.run c.lookup? limit = .error (.formula (.failed source detail))) ∧
    ∀ e, p.run c.lookup? limit = .error e → runtimeSort ∈ Report.lineage e.report.sort := by
  intro p
  have hsound : Sound (Evaluation.Reasoned ⟨source, Library.registry, c.lookup?, 0⟩)
      Datum.IsFormulaValue (p.value c.lookup?) :=
    Evaluation.sound_value_of_hasValues (fun _ hf => Library.conforms_of_mem hf) c.hasValues h
  have hends : (∃ d k, p.run c.lookup? limit = .ok d ∧ d.IsValue k) ∨
      (p.run c.lookup? limit = .error (.formula (.outOfSteps source limit)) ∧
        limit < root.count) ∨
      ∃ detail, IsReason Library.registry detail ∧
        p.run c.lookup? limit = .error (.formula (.failed source detail)) := by
    rcases p.run_eq_outOfSteps_or_value c.lookup? limit with hsteps | hvalue
    · exact .inr (.inl hsteps)
    · rw [hvalue]
      cases hx : p.value c.lookup? with
      | ok d =>
          rw [hx] at hsound
          obtain ⟨k, hd⟩ := hsound
          exact .inl ⟨d, k, rfl, hd⟩
      | error e =>
          rw [hx] at hsound
          obtain ⟨detail, hdetail, rfl⟩ := hsound
          exact .inr (.inr ⟨detail, hdetail, rfl⟩)
  refine ⟨hends, ?_⟩
  intro e he
  rcases hends with ⟨d, k, hd, -⟩ | ⟨hsteps, -⟩ | ⟨detail, -, hfails⟩
  · rw [hd] at he
    cases he
  · rw [hsteps] at he
    obtain rfl := Except.error.inj he
    exact (by decide : runtimeSort ∈ Report.lineage "EvaluationBudgetExceededError")
  · rw [hfails] at he
    obtain rfl := Except.error.inj he
    exact (by decide : runtimeSort ∈ Report.lineage "FormulaRuntimeError")

/-- A power, which the language does not have, of an infinity that is rounded down and of a name that
stands for nothing. All its annotations are wrong. -/
def handmade : Tree :=
  .binary (.ofSymbol "**")
    (.call "floor" [.literal (.double (Binary.signed false Binary.infiniteBits)) .string] .date)
    (.reference "nobody" .boolean) .string

theorem hasValues_handmade : handmade.HasValues := by
  intro d k hpart
  cases hpart with
  | left hcall =>
      cases hcall with
      | argument hmem hliteral =>
          obtain rfl := List.mem_singleton.1 hmem
          cases hliteral with
          | self => exact ⟨_, .number _⟩
  | right hname => cases hname

/-- The function refuses the infinity before the name is looked up and the operator is met. Whatever
the limit is, a fault of a run of this tree is one of a formula that runs. -/
theorem run_handmade_fails :
    handmade.HasValues ∧
    (⟨"", handmade, Library.registry⟩ : Program).run heldUnit.lookup? 10 =
      .error (.formula (.failed "" "floor(): cannot convert float infinity to integer")) ∧
    IsReason Library.registry "floor(): cannot convert float infinity to integer" ∧
    ∀ limit e, (⟨"", handmade, Library.registry⟩ : Program).run heldUnit.lookup? limit = .error e →
      runtimeSort ∈ Report.lineage e.report.sort := by
  have hrun : (⟨"", handmade, Library.registry⟩ : Program).run heldUnit.lookup? 10 =
      .error (.formula (.failed "" "floor(): cannot convert float infinity to integer")) := rfl
  refine ⟨hasValues_handmade, hrun, ?_, ?_⟩
  · have hends := (run_unchecked_isValue_or_fails "" hasValues_handmade heldUnit 10).1
    rw [hrun] at hends
    rcases hends with ⟨d, k, hd, -⟩ | ⟨hsteps, -⟩ | ⟨detail, hdetail, hfails⟩
    · cases hd
    · cases hsteps
    · cases hfails
      exact hdetail
  · intro limit
    exact (run_unchecked_isValue_or_fails "" hasValues_handmade heldUnit limit).2

end Formula

end Appraisal
