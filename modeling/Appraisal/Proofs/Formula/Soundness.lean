import Appraisal.Proofs.Formula.Conformance
import Appraisal.Proofs.Formula.Typing
import Appraisal.Proofs.Formula.Value

/-!
# Soundness of kinds

A tree whose annotations are right gives a value of its kind in every environment that gives the
variables values of theirs, or it fails for a reason that is no complaint about the kind of a value.
Every formula that compiles for postings has such a tree.
-/

namespace Appraisal.Formula

open Outcome

namespace Evaluation

variable {v : Evaluation}

/-! ### Operators -/

theorem truth_eq_ok {d : Datum} (h : d.IsValue .boolean) : ∃ b, v.truth d = .ok b := by
  cases h with
  | boolean b => exact ⟨b, rfl⟩

theorem number_eq_ok {d : Datum} (h : d.IsValue .number) : ∃ x, v.number d = .ok (.double x) := by
  cases h with
  | number x => exact ⟨x, rfl⟩

theorem sound_truth_of_isValue {allowed : Fault → Prop} {d : Datum} (h : d.IsValue .boolean) :
    Sound allowed (fun _ => True) (v.truth d) := by
  obtain ⟨b, hb⟩ := @truth_eq_ok v d h
  rw [hb]
  trivial

theorem sound_number_of_isValue {allowed : Fault → Prop} {d : Datum} (h : d.IsValue .number) :
    Sound allowed (fun q => ∃ x, q = .double x) (v.number d) := by
  obtain ⟨x, hx⟩ := @number_eq_ok v d h
  rw [hx]
  exact ⟨x, rfl⟩

theorem sound_finite (op : Arithmetic) (x : Float) :
    Sound (Fails v.registry v.source) (Datum.IsValue .number) (v.finite op.symbol (.double x)) := by
  have hfinite : v.finite op.symbol (.double x) =
      if x.isFinite then .ok (.double x)
      else .error (v.failed ("'" ++ op.symbol ++ "' produced a non-finite result")) := rfl
  rw [hfinite]
  split
  · exact .number x
  · exact ⟨_, .operator op, rfl⟩

theorem sound_quotient (op : Arithmetic) (x y : Float) :
    Sound (Fails v.registry v.source) Quantity.IsDouble
      (v.quotient op (.double x) (.double y)) := by
  cases op with
  | add => exact ⟨x + y, rfl⟩
  | sub => exact ⟨x - y, rfl⟩
  | mul => exact ⟨x * y, rfl⟩
  | div =>
      simp only [quotient]
      split
      · exact ⟨_, .division, rfl⟩
      · exact ⟨x / y, rfl⟩
  | mod =>
      simp only [quotient]
      split
      · exact ⟨_, .modulo, rfl⟩
      · exact ⟨Quantity.floatMod x y, rfl⟩

theorem sound_computed (op : Arithmetic) {a b : Datum} (ha : a.IsValue .number)
    (hb : b.IsValue .number) :
    Sound (Fails v.registry v.source) (Datum.IsValue .number) (v.computed op a b) := by
  cases ha with
  | number x =>
      cases hb with
      | number y =>
          have hop : v.computed op (.double x) (.double y) =
              v.quotient op (.double x) (.double y) >>= v.finite op.symbol := by
            cases op <;> rfl
          rw [hop]
          refine (sound_quotient op x y).bind (fun q hq => ?_)
          obtain ⟨z, rfl⟩ := hq
          exact sound_finite op z

theorem computed_texts {a b : Datum} (ha : a.IsValue .string) (hb : b.IsValue .string) :
    ∃ t, v.computed .add a b = .ok (.text t) := by
  cases ha with
  | string s =>
      cases hb with
      | string t => exact ⟨s ++ t, rfl⟩

theorem isSignaling_exactDecimal (x : Float) : (Datum.exactDecimal x).isSignaling = false := by
  unfold Datum.exactDecimal
  split
  · rfl
  · rfl
  · split <;> rfl

theorem isSignaling_of_number? {k : Kind} {d : Datum} (h : d.IsValue k) {n : Decimal}
    (hn : d.number? = some n) : n.isSignaling = false := by
  cases h with
  | number x =>
      obtain rfl := Option.some.inj hn
      exact isSignaling_exactDecimal x
  | boolean b =>
      obtain rfl := Option.some.inj hn
      rfl
  | string s => cases hn
  | date d => cases hn

theorem equalNumber_eq_ok {k : Kind} {n : Decimal} (hn : n.isSignaling = false) {d : Datum}
    (h : d.IsValue k) : ∃ r, Datum.equalNumber n d = .ok r := by
  unfold Datum.equalNumber
  split
  · rename_i m hm
    refine ⟨n.compare? m == some .eq, ?_⟩
    simp [Decimal.equal, hn, isSignaling_of_number? h hm]
  · exact ⟨false, rfl⟩

/-- Any two values can be asked whether they are equal, also those of different kinds. -/
theorem equal_eq_ok {k k' : Kind} {a b : Datum} (ha : a.IsValue k) (hb : b.IsValue k') :
    ∃ r, equal a b = .ok r := by
  have hequal : ∃ r, a.equal b = .ok r := by
    unfold Datum.equal
    cases ha with
    | number x => exact equalNumber_eq_ok (isSignaling_exactDecimal x) hb
    | string s => exact ⟨b.asText? == some s, rfl⟩
    | boolean s => exact equalNumber_eq_ok rfl hb
    | date s =>
        cases hb with
        | date t => exact ⟨decide (s = t), rfl⟩
        | _ => exact ⟨false, rfl⟩
  obtain ⟨r, hr⟩ := hequal
  refine ⟨r, ?_⟩
  unfold equal
  rw [hr]
  rfl

theorem order?_eq_ok {k : Kind} {a b : Datum} (ha : a.IsValue k) (hb : b.IsValue k)
    (hk : k ≠ .boolean) : ∃ o, order? a b = .ok o := by
  cases ha with
  | boolean s => exact absurd rfl hk
  | number x =>
      cases hb with
      | number y => exact ⟨_, rfl⟩
  | string s =>
      cases hb with
      | string t => exact ⟨_, rfl⟩
  | date s =>
      cases hb with
      | date t => exact ⟨_, rfl⟩

theorem ordered_eq_ok {op : Comparison} {k : Kind} {a b : Datum} (ha : a.IsValue k)
    (hb : b.IsValue k) (hk : k ≠ .boolean) : ∃ r, v.ordered op a b = .ok (.truth r) := by
  obtain ⟨o, ho⟩ := order?_eq_ok ha hb hk
  refine ⟨holds op o, ?_⟩
  simp [ordered, ha.kind?_eq, hb.kind?_eq, hk, ho]

theorem compared_isValue {op : Comparison} {k : Kind} {a b : Datum} (ha : a.IsValue k)
    (hb : b.IsValue k) (hk : op.isOrder = true → k.isOrdered = true) :
    ∃ r, v.compared op a b = .ok (.truth r) := by
  have hordered (h : op.isOrder = true) : k ≠ .boolean := by
    rintro rfl
    exact absurd (hk h) (by simp [Kind.isOrdered])
  obtain ⟨r, hr⟩ := equal_eq_ok ha hb
  cases op with
  | eq => exact ⟨r, by simp only [compared, hr]; rfl⟩
  | ne => exact ⟨!r, by simp only [compared, hr]; rfl⟩
  | _ => exact ordered_eq_ok ha hb (hordered rfl)

/-! ### Trees -/

/-- The environment gives every variable of the schema a value of its kind. -/
def Respects (environment : Environment) (schema : Schema) : Prop :=
  ∀ n k, schema.lookup n = some k → ∃ d, environment n = some d ∧ d.IsValue k

theorem function_eq_ok {f : Function} (h : f ∈ v.registry.functions) :
    v.function f.name = .ok f := by
  unfold function
  rw [Text.string?_ofString, Option.bind_some, Registry.find?_eq_some_iff.2 h]

theorem map_kind_eq_take {ts : List Tree} {ks : List Kind} (hl : ts.length ≤ ks.length)
    (h : ∀ p ∈ ts.zip ks, p.1.kind = p.2) : ts.map Tree.kind = ks.take ts.length := by
  induction ts generalizing ks with
  | nil => rfl
  | cons t ts ih =>
      cases ks with
      | nil => simp at hl
      | cons k ks =>
          rw [List.zip_cons_cons, List.forall_mem_cons] at h
          rw [List.map_cons, List.length_cons, List.take_succ_cons,
            ih (by simpa using hl) h.2]
          exact congrArg (· :: _) h.1

/-- A tree with right annotations gives a value of its kind, or fails. -/
theorem sound_value {schema : Schema} (hf : ∀ f ∈ v.registry.functions, f.Conforms)
    (henv : Respects v.environment schema) {t : Tree} (h : t.WellKinded schema v.registry) :
    Sound (Fails v.registry v.source) (Datum.IsValue t.kind) (v.value t) := by
  induction h with
  | truth b => exact .boolean b
  | text s => exact .string s
  | number x _ => exact .number x
  | reference n k hk =>
      obtain ⟨d, hd, hv⟩ := henv n k hk
      simp only [value, lookup, hd]
      exact hv
  | sign op t ho _ hk ih =>
      rw [hk] at ih
      refine sound_sign ho ih (fun d => sound_number_of_isValue) ?_ ?_
      · rintro _ ⟨x, rfl⟩
        exact ⟨-x, rfl⟩
      · rintro _ ⟨x, rfl⟩
        exact .number x
  | not t _ hk ih =>
      rw [hk] at ih
      exact sound_not ih (fun d => sound_truth_of_isValue) Datum.IsValue.boolean
  | concatenation l r _ _ hlk hrk ihl ihr =>
      rw [hlk] at ihl
      rw [hrk] at ihr
      refine sound_binary (by simp) ihl ihr (fun a b ha hb => ?_)
      obtain ⟨t, ht⟩ := @computed_texts v a b ha hb
      simp only [combined, ht]
      exact .string t
  | arithmetic op l r _ _ hlk hrk ihl ihr =>
      rw [hlk] at ihl
      rw [hrk] at ihr
      exact sound_binary (by simp) ihl ihr (fun a b => sound_computed op)
  | comparison op l r _ _ hk ho ihl ihr =>
      refine sound_binary (by simp) ihl ihr (fun a b ha hb => ?_)
      obtain ⟨t, ht⟩ := @compared_isValue v op _ a b ha (hk ▸ hb) ho
      simp only [combined, ht]
      exact .boolean t
  | connective op l r ho _ _ hlk hrk ihl ihr =>
      rw [hlk] at ihl
      rw [hrk] at ihr
      exact sound_connective ho ihl ihr (fun d => sound_truth_of_isValue) Datum.IsValue.boolean
  | call f args hmem hmin hmax _ hk ih =>
      have hcall : v.value (.call f.name args f.returns) =
          v.values args >>= fun ds => f.invoke ds v.source := by
        simp only [value, function_eq_ok hmem, ok_bind]
      rw [hcall]
      refine (sound_values ih).bind (fun ds hds => ?_)
      rw [← List.forall₂_map_left_iff (R := Datum.IsValue), map_kind_eq_take hmax hk] at hds
      have hlen : args.length = ds.length := by
        have hl := hds.length_eq
        rw [List.length_take] at hl
        omega
      rw [hlen] at hmin hmax hds
      exact Function.sound_invoke hmem (hf f hmem) hmin hmax hds v.source

end Evaluation

/-! ### Contexts -/

theorem lookup_of_forall₂ {schema : Schema} {values : List (Text × Datum)}
    (h : List.Forall₂ (fun a b => a.1 = b.1 ∧ b.2.IsValue a.2) schema values) {n : Text} {k : Kind}
    (hk : schema.lookup n = some k) : ∃ d, values.lookup n = some d ∧ d.IsValue k := by
  induction h with
  | nil => simp at hk
  | @cons a b _ _ hab _ ih =>
      obtain ⟨name, k'⟩ := a
      obtain ⟨name', d⟩ := b
      obtain ⟨rfl, hd⟩ : name = name' ∧ d.IsValue k' := hab
      rw [List.lookup_cons] at hk ⊢
      cases hn : n == name with
      | true =>
          rw [hn] at hk
          obtain rfl := Option.some.inj hk
          exact ⟨d, rfl, hd⟩
      | false =>
          rw [hn] at hk
          exact ih hk

/-- A context gives every variable of a posting a value of its kind. -/
theorem Context.respects (c : Context) : Evaluation.Respects c.lookup? postingSchema := by
  refine fun n k hk => lookup_of_forall₂ ?_ hk
  exact .cons ⟨rfl, .number _⟩ (.cons ⟨rfl, .number _⟩ (.cons ⟨rfl, .date _⟩
    (.cons ⟨rfl, .number _⟩ (.cons ⟨rfl, .number _⟩ (.cons ⟨rfl, .number _⟩
      (.cons ⟨rfl, .string _⟩ (.cons ⟨rfl, .string _⟩ (.cons ⟨rfl, .string _⟩ .nil))))))))

/-! ### Programs -/

theorem wellKinded_of_compile {source : Text} {schema : Schema} {registry : Registry}
    {nodeLimit : Int} {p : Program} (h : compile source schema registry nodeLimit = .ok p) :
    p.source = source ∧ p.registry = registry ∧ p.root.WellKinded schema registry := by
  unfold compile at h
  obtain ⟨e, -, h⟩ := bind_eq_ok_iff.1 h
  split at h
  · simp at h
  · obtain ⟨t, ht, h⟩ := bind_eq_ok_iff.1 h
    split at h
    · simp at h
    · obtain rfl := Except.ok.inj h
      exact ⟨rfl, rfl, (Scope.isTyped _ t ht).2⟩

/-- How a run on a context ends: with a value of a kind, at the limit, or with a failure. -/
def Ends (source : Text) (k : Kind) (limit : Int) (x : Except Fault Datum) : Prop :=
  (∃ d, x = .ok d ∧ d.IsValue k) ∨ x = .error (.formula (.outOfSteps source limit)) ∨
    ∃ e, Fails Library.registry source e ∧ x = .error e

theorem ends_run {source : Text} {nodeLimit : Int} {p : Program}
    (h : compile source postingSchema Library.registry nodeLimit = .ok p) (c : Context)
    (limit : Int) : Ends source p.kind limit (p.run c.lookup? limit) := by
  obtain ⟨rfl, hr, ht⟩ := wellKinded_of_compile h
  rcases p.run_eq_outOfSteps_or_value c.lookup? limit with ⟨he, -⟩ | he
  · exact .inr (.inl he)
  · have hf : ∀ f ∈ p.registry.functions, f.Conforms := by
      rw [hr]
      exact fun f hf => Library.conforms_of_mem hf
    have hsound := @Evaluation.sound_value ⟨p.source, p.registry, c.lookup?, 0⟩ postingSchema hf
      c.respects p.root (hr ▸ ht)
    rw [he]
    unfold Program.value
    cases hv : Evaluation.value ⟨p.source, p.registry, c.lookup?, 0⟩ p.root with
    | ok d =>
        rw [hv] at hsound
        exact .inl ⟨d, rfl, hsound⟩
    | error e =>
        rw [hv] at hsound
        exact .inr (.inr ⟨e, hr ▸ hsound, rfl⟩)

/-- A run that ends with a value of another kind is the only one that gives no number. -/
theorem runNumeric_eq_notNumeric_iff {p : Program} {environment : Environment} {limit : Int}
    {source : Text} {k : Kind} (h : Ends source k limit (p.run environment limit)) :
    (∃ found, p.runNumeric environment limit = .error (.formula (.notNumeric p.source found))) ↔
      (∃ d, p.run environment limit = .ok d) ∧ k ≠ .number := by
  unfold Program.runNumeric
  rcases h with ⟨d, hd, hk⟩ | he | ⟨e, ⟨detail, -, rfl⟩, he⟩
  · rw [hd, ok_bind]
    cases hk with
    | number x =>
        by_cases hx : x.isFinite = true
        · simp [Program.numeric, Datum.quantity?, Quantity.toFloat, Library.lift, hx]
        · simp [Program.numeric, Datum.quantity?, Quantity.toFloat, Library.lift, hx]
    | _ => simp [Program.numeric, Datum.quantity?]
  · simp [he]
  · simp [he]

/-- A compiled formula is sound. On every context and within every limit it gives a value of its
kind, passes the limit, or fails for a reason that does not complain about the kind of a value; it
gives no number exactly when it gives a value and its kind is another one. -/
theorem run_compiled_isValue_or_fails {source : Text} {nodeLimit : Int} {p : Program}
    (h : compile source postingSchema Library.registry nodeLimit = .ok p) (c : Context)
    (limit : Int) :
    ((∃ d, p.run c.lookup? limit = .ok d ∧ d.IsValue p.kind ∧ d.kind? = some p.kind) ∨
      p.run c.lookup? limit = .error (.formula (.outOfSteps source limit)) ∨
      ∃ detail, IsFailure Library.registry detail ∧ ¬ IsComplaint Library.registry detail ∧
        p.run c.lookup? limit = .error (.formula (.failed source detail))) ∧
    ((∃ found, p.runNumeric c.lookup? limit = .error (.formula (.notNumeric source found))) ↔
      (∃ d, p.run c.lookup? limit = .ok d) ∧ p.kind ≠ .number) := by
  have hends := ends_run h c limit
  refine ⟨?_, (wellKinded_of_compile h).1 ▸ runNumeric_eq_notNumeric_iff hends⟩
  rcases hends with ⟨d, hd, hk⟩ | he | ⟨e, ⟨detail, hdetail, rfl⟩, he⟩
  · exact .inl ⟨d, hd, hk, hk.kind?_eq⟩
  · exact .inr (.inl he)
  · exact .inr (.inr ⟨detail, hdetail, not_isComplaint hdetail, he⟩)

theorem run_compiled_condition :
    ∃ p, compile "note_contains(note, 'live') and 0 < min(amount, 5) <= days_held"
        postingSchema Library.registry defaultNodeLimit = .ok p ∧ p.kind = .boolean ∧
      ∀ (c : Context) (limit : Int),
        (∃ found, p.runNumeric c.lookup? limit = .error (.formula (.notNumeric p.source found))) ↔
          ∃ d, p.run c.lookup? limit = .ok d := by
  have hk : (compile "note_contains(note, 'live') and 0 < min(amount, 5) <= days_held"
      postingSchema Library.registry defaultNodeLimit).toOption.map Program.kind =
        some .boolean := by
    decide +kernel
  obtain ⟨p, hp, hboolean⟩ := Option.map_eq_some_iff.1 hk
  cases hc : compile "note_contains(note, 'live') and 0 < min(amount, 5) <= days_held"
      postingSchema Library.registry defaultNodeLimit with
  | error e => simp [hc, Except.toOption] at hp
  | ok q =>
      obtain rfl : q = p := by simpa [hc, Except.toOption] using hp
      refine ⟨q, rfl, hboolean, fun c limit => ?_⟩
      have hrun := (run_compiled_isValue_or_fails hc c limit).2
      rw [← (wellKinded_of_compile hc).1, hboolean] at hrun
      simpa using hrun

end Appraisal.Formula
