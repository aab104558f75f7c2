import Appraisal.Formula.Context
import Appraisal.Formula.Library
import Appraisal.Formula.Outline
import Appraisal.Proofs.Formula.Typing
import Appraisal.Proofs.Text.Basic

/-!
# Trees as expressions

Each node of a tree can be written as one expression: a literal as a constant, a variable as a name,
an operator with its one or two operands, a call by the name of its function. Lowering this expression
gives back the tree, annotations included, when the annotations are those that the parts and the
registry determine. The operators go through two tables on the way, which undo each other. The outline
of such a tree gives it back as well. The main statements: `lower_expression` and `ofOutline_outline`.
-/

namespace Appraisal.Formula

open Outcome Scope

/-! ### Operators -/

def Arithmetic.written : Arithmetic → InfixOperator
  | add => .add
  | sub => .sub
  | mul => .mul
  | div => .div
  | mod => .mod

def Comparison.written : Comparison → Relation
  | eq => .eq
  | ne => .ne
  | lt => .lt
  | le => .le
  | gt => .gt
  | ge => .ge

def UnaryOperator.written? : UnaryOperator → Option PrefixOperator
  | negate => some .negate
  | plus => some .plus
  | not => some .not
  | unknown _ => none

theorem arithmetic?_written (op : Arithmetic) : arithmetic? op.written = some op := by
  cases op <;> rfl

theorem comparison?_written (op : Comparison) : comparison? op.written = some op := by
  cases op <;> rfl

/-! ### Expressions of trees -/

namespace Tree

def constant? : Datum → Option Constant
  | .truth b => some (.truth b)
  | .double x => some (.double x)
  | .text t => some (.text t)
  | _ => none

mutual

/-- The expression of a tree: one expression a node, with two operands for every operator that joins
some. There is none for what no expression can hold: an unknown operator, a datum that is not written
as a constant, a name with a surrogate in it. -/
def expression? (column : Nat) : Tree → Option Surface
  | literal v _ => (constant? v).map (.constant column)
  | reference n _ => n.string?.map (.name column)
  | unary op t _ => do
      let op ← op.written?
      let e ← t.expression? column
      return .unary column op e
  | binary op l r _ => do
      let left ← l.expression? column
      let right ← r.expression? column
      match op with
      | .arithmetic op => some (.binary column op.written left right)
      | .comparison op => some (.comparison column left [(op.written, right)])
      | .and => some (.connective column true [left, right])
      | .or => some (.connective column false [left, right])
      | .unknown _ => none
  | call n args _ => do
      let name ← n.string?
      let es ← expressions? column args
      return .call column (.name column name) es []

def expressions? (column : Nat) : List Tree → Option (List Surface)
  | [] => some []
  | t :: ts => do
      let e ← t.expression? column
      let es ← expressions? column ts
      return e :: es

end

variable {column : Nat} {t l r : Tree} {e : Surface}

theorem expression?_unary_eq_some_iff {op : UnaryOperator} {k : Kind} :
    (unary op t k).expression? column = some e ↔
      ∃ p e', op.written? = some p ∧ t.expression? column = some e' ∧ .unary column p e' = e := by
  simp [expression?, Option.bind_eq_some_iff]

theorem expression?_binary_eq_some_iff {op : BinaryOperator} {k : Kind} :
    (binary op l r k).expression? column = some e ↔
      ∃ left right, l.expression? column = some left ∧ r.expression? column = some right ∧
        ((∃ a, op = .arithmetic a ∧ .binary column a.written left right = e) ∨
          (∃ c, op = .comparison c ∧ .comparison column left [(c.written, right)] = e) ∨
          (op = .and ∧ .connective column true [left, right] = e) ∨
          (op = .or ∧ .connective column false [left, right] = e)) := by
  rw [expression?]
  cases op <;> simp [Option.bind_eq_some_iff]

theorem expressions?_eq_some_iff {ts : List Tree} {es : List Surface} :
    expressions? column ts = some es ↔
      List.Forall₂ (fun t e => t.expression? column = some e) ts es := by
  induction ts generalizing es with
  | nil => simp [expressions?, eq_comm]
  | cons t ts ih =>
      simp only [expressions?, Option.bind_eq_bind, Option.bind_eq_some_iff, Option.pure_def,
        Option.some.injEq, ih, List.forall₂_cons_left_iff]
      constructor
      · rintro ⟨e, he, rest, hrest, rfl⟩
        exact ⟨e, rest, he, hrest, rfl⟩
      · rintro ⟨e, rest, he, hrest, rfl⟩
        exact ⟨e, he, rest, hrest, rfl⟩

theorem expression?_call_eq_some_iff {n : Text} {args : List Tree} {k : Kind} :
    (call n args k).expression? column = some e ↔
      ∃ name es, n.string? = some name ∧
        List.Forall₂ (fun t e => t.expression? column = some e) args es ∧
        .call column (.name column name) es [] = e := by
  simp [expression?, Option.bind_eq_some_iff, expressions?_eq_some_iff]

theorem isStarred_of_expression? (h : t.expression? column = some e) : e.isStarred = false := by
  cases t with
  | literal v k =>
      obtain ⟨c, -, rfl⟩ := Option.map_eq_some_iff.1 h
      rfl
  | reference n k =>
      obtain ⟨name, -, rfl⟩ := Option.map_eq_some_iff.1 h
      rfl
  | unary op t k =>
      obtain ⟨p, e', -, -, rfl⟩ := expression?_unary_eq_some_iff.1 h
      rfl
  | binary op l r k =>
      obtain ⟨left, right, -, -, ⟨a, -, rfl⟩ | ⟨c, -, rfl⟩ | ⟨-, rfl⟩ | ⟨-, rfl⟩⟩ :=
        expression?_binary_eq_some_iff.1 h <;> rfl
  | call n args k =>
      obtain ⟨name, es, -, -, rfl⟩ := expression?_call_eq_some_iff.1 h
      rfl

end Tree

/-! ### Lowering -/

namespace Scope

/-- The expression is lowered to the tree and has as many parts as the tree has nodes. -/
structure GivesBack (s : Scope) (e : Surface) (t : Tree) : Prop where
  lower_eq : s.lower e = .ok t
  size_eq : e.size = t.count

variable {s : Scope} {column : Nat} {t l r : Tree} {e left right : Surface} {k : Kind}

theorem givesBack_unary {op : UnaryOperator} {p : PrefixOperator} (he : s.GivesBack e t)
    (h : s.unary column p t = .ok (.unary op t k)) :
    s.GivesBack (.unary column p e) (.unary op t k) where
  lower_eq := bind_eq_ok_iff.2 ⟨t, he.lower_eq, h⟩
  size_eq := by
    have hsize := he.size_eq
    simp only [Surface.size, Surface.inner, Tree.count] at hsize ⊢
    omega

theorem givesBack_arithmetic {op : Arithmetic} (hl : s.GivesBack left l) (hr : s.GivesBack right r)
    (h : s.binary column op l r = .ok (.binary (.arithmetic op) l r k)) :
    s.GivesBack (.binary column op.written left right) (.binary (.arithmetic op) l r k) where
  lower_eq := by
    unfold lower
    rw [arithmetic?_written]
    exact bind_eq_ok_iff.2 ⟨l, hl.lower_eq, bind_eq_ok_iff.2 ⟨r, hr.lower_eq, h⟩⟩
  size_eq := by
    have hleft := hl.size_eq
    have hright := hr.size_eq
    simp only [Surface.size, Surface.inner, Tree.count] at hleft hright ⊢
    omega

theorem givesBack_comparison {op : Comparison} (hl : s.GivesBack left l) (hr : s.GivesBack right r)
    (hk : l.kind = r.kind) (ho : op.isOrder = true → l.kind.isOrdered = true) :
    s.GivesBack (.comparison column left [(op.written, right)])
      (.binary (.comparison op) l r .boolean) where
  lower_eq := by
    have hlink : s.link column l op.written r = .ok (.binary (.comparison op) l r .boolean) :=
      s.link_eq_ok_iff.2 ⟨op, comparison?_written op, hk, ho, rfl⟩
    have hlinks : s.links column l [(op.written, r)] =
        .ok [.binary (.comparison op) l r .boolean] :=
      s.links_cons_eq_ok_iff.2 ⟨_, [], hlink, rfl, rfl⟩
    have hrest : s.lowerLinks [(op.written, right)] = .ok [(op.written, r)] :=
      s.lowerLinks_eq_ok_iff.2 (.cons ⟨rfl, hr.lower_eq⟩ .nil)
    exact bind_eq_ok_iff.2 ⟨l, hl.lower_eq, bind_eq_ok_iff.2 ⟨_, hrest,
      s.comparison_eq_ok_iff.2 ⟨_, [], hlinks, rfl⟩⟩⟩
  size_eq := by
    have hleft := hl.size_eq
    have hright := hr.size_eq
    simp only [Surface.size, Surface.inner, Surface.linkSizes, Surface.linkSize, Tree.count]
      at hleft hright ⊢
    omega

theorem givesBack_connective (conjunction : Bool) (hl : s.GivesBack left l)
    (hr : s.GivesBack right r) (hlk : l.kind = .boolean) (hrk : r.kind = .boolean) :
    s.GivesBack (.connective column conjunction [left, right])
      (.binary (connector conjunction) l r .boolean) where
  lower_eq := by
    have hall : s.lowerAll [left, right] = .ok [l, r] :=
      s.lowerAll_eq_ok_iff.2 (.cons hl.lower_eq (.cons hr.lower_eq .nil))
    exact bind_eq_ok_iff.2 ⟨_, hall,
      s.connective_eq_ok_iff.2 ⟨by simp [hlk, hrk], l, [r], rfl, rfl⟩⟩
  size_eq := by
    have hleft := hl.size_eq
    have hright := hr.size_eq
    simp only [Surface.size, Surface.inner, Surface.sizes, Tree.count] at hleft hright ⊢
    omega

theorem givesBack_call {f : Function} {es : List Surface} {args : List Tree}
    (hes : List.Forall₂ s.GivesBack es args) (hstar : ∀ e ∈ es, e.isStarred = false)
    (hf : f ∈ s.registry.functions) (hmin : f.required ≤ args.length)
    (hmax : args.length ≤ f.params.length) (hk : ∀ p ∈ args.zip f.params, p.1.kind = p.2) :
    s.GivesBack (.call column (.name column f.name) es []) (.call f.name args f.returns) where
  lower_eq := by
    have hfind : s.registry.find? f.name = some f := Registry.find?_eq_some_iff.2 hf
    have hcallee : s.callee column (.name column f.name) es [] = .ok f :=
      s.callee_name_eq_ok_iff.2 ⟨rfl, hstar, hfind, hes.length_eq ▸ hmin, hes.length_eq ▸ hmax⟩
    have hall : s.lowerAll es = .ok args :=
      s.lowerAll_eq_ok_iff.2 (hes.imp (fun _ _ h => h.lower_eq))
    exact bind_eq_ok_iff.2 ⟨f, hcallee, bind_eq_ok_iff.2 ⟨args, hall,
      s.call_eq_ok_iff.2 ⟨hk, rfl⟩⟩⟩
  size_eq := by
    have hsizes : Surface.sizes es = Tree.counts args := by
      clear hstar hmin hmax hk
      induction hes with
      | nil => rfl
      | cons h _ ih => exact congrArg₂ _ h.size_eq ih
    simp only [Surface.size, Surface.inner, Surface.sizes, Tree.count, hsizes]
    omega

/-- The expression of a tree whose annotations are right gives it back. -/
theorem givesBack_of_expression?
    (hnames : ∀ n ∈ truthNames, s.schema.lookup (n : Text) = none)
    (ht : t.WellKinded s.schema s.registry) (he : t.expression? column = some e) :
    s.GivesBack e t := by
  induction ht generalizing e with
  | truth b =>
      obtain rfl := Option.some.inj he
      exact ⟨rfl, rfl⟩
  | text u =>
      obtain rfl := Option.some.inj he
      exact ⟨rfl, rfl⟩
  | number x hx =>
      obtain rfl := Option.some.inj he
      exact ⟨s.constant_eq_ok_iff.2 (.inr (.inr (.inl ⟨x, rfl, hx, rfl⟩))), rfl⟩
  | reference n k hk =>
      obtain ⟨name, hname, rfl⟩ := Option.map_eq_some_iff.1 he
      obtain rfl := Text.ofString_of_string? hname
      have htruth : truthName? name = none := by
        rw [truthName?_eq_none_iff]
        intro hmem
        rw [hnames name hmem] at hk
        cases hk
      exact ⟨s.name_eq_ok_iff.2 (.inr ⟨htruth, k, hk, rfl⟩), rfl⟩
  | sign op t ho _ hk ih =>
      obtain ⟨p, e', hp, he', rfl⟩ := Tree.expression?_unary_eq_some_iff.1 he
      refine givesBack_unary (ih he') (s.unary_eq_ok_iff.2 ?_)
      rcases ho with rfl | rfl
      · exact .inl ⟨(Option.some.inj hp).symm, hk, rfl⟩
      · exact .inr (.inl ⟨(Option.some.inj hp).symm, hk, rfl⟩)
  | not t _ hk ih =>
      obtain ⟨p, e', hp, he', rfl⟩ := Tree.expression?_unary_eq_some_iff.1 he
      exact givesBack_unary (ih he')
        (s.unary_eq_ok_iff.2 (.inr (.inr ⟨(Option.some.inj hp).symm, hk, rfl⟩)))
  | concatenation l r _ _ hlk hrk ihl ihr =>
      obtain ⟨left, right, hl, hr, hcase⟩ := Tree.expression?_binary_eq_some_iff.1 he
      obtain ⟨a, ha, rfl⟩ | ⟨c, hc, -⟩ | ⟨hc, -⟩ | ⟨hc, -⟩ := hcase
      · obtain rfl := BinaryOperator.arithmetic.inj ha
        exact givesBack_arithmetic (ihl hl) (ihr hr)
          (s.binary_eq_ok_iff.2 (.inl ⟨rfl, hlk, hrk, rfl⟩))
      all_goals cases hc
  | arithmetic op l r _ _ hlk hrk ihl ihr =>
      obtain ⟨left, right, hl, hr, hcase⟩ := Tree.expression?_binary_eq_some_iff.1 he
      obtain ⟨a, ha, rfl⟩ | ⟨c, hc, -⟩ | ⟨hc, -⟩ | ⟨hc, -⟩ := hcase
      · obtain rfl := BinaryOperator.arithmetic.inj ha
        exact givesBack_arithmetic (ihl hl) (ihr hr)
          (s.binary_eq_ok_iff.2 (.inr ⟨hlk, hrk, rfl⟩))
      all_goals cases hc
  | comparison op l r _ _ hk ho ihl ihr =>
      obtain ⟨left, right, hl, hr, hcase⟩ := Tree.expression?_binary_eq_some_iff.1 he
      obtain ⟨a, ha, -⟩ | ⟨c, hc, rfl⟩ | ⟨hc, -⟩ | ⟨hc, -⟩ := hcase
      · cases ha
      · obtain rfl := BinaryOperator.comparison.inj hc
        exact givesBack_comparison (ihl hl) (ihr hr) hk ho
      all_goals cases hc
  | connective op l r ho _ _ hlk hrk ihl ihr =>
      obtain ⟨left, right, hl, hr, hcase⟩ := Tree.expression?_binary_eq_some_iff.1 he
      obtain ⟨a, rfl, -⟩ | ⟨c, rfl, -⟩ | ⟨rfl, rfl⟩ | ⟨rfl, rfl⟩ := hcase
      · simp at ho
      · simp at ho
      · exact givesBack_connective true (ihl hl) (ihr hr) hlk hrk
      · exact givesBack_connective false (ihl hl) (ihr hr) hlk hrk
  | call f args hf hmin hmax h hk ih =>
      obtain ⟨name, es, hname, hes, rfl⟩ := Tree.expression?_call_eq_some_iff.1 he
      rw [Text.string?_ofString] at hname
      obtain rfl := Option.some.inj hname
      have hstar : ∀ e ∈ es, e.isStarred = false := by
        intro e hmem
        obtain ⟨t, -, ht⟩ := exists_mem_of_forall₂ hes hmem
        exact Tree.isStarred_of_expression? ht
      have hback : List.Forall₂ (fun t e => s.GivesBack e t) args es :=
        ((List.forall₂_and_left args es).2 ⟨@ih, hes⟩).imp (fun _ _ h => h.1 h.2)
      exact givesBack_call hback.flip hstar hf hmin hmax hk

end Scope

/-! ### Which trees have an expression -/

namespace Tree

variable {schema : Schema} {registry : Registry} {t : Tree}

theorem exists_expressions? {column : Nat} {ts : List Tree}
    (h : ∀ t ∈ ts, ∃ e, t.expression? column = some e) : ∃ es, expressions? column ts = some es := by
  induction ts with
  | nil => exact ⟨[], rfl⟩
  | cons t ts ih =>
      rw [List.forall_mem_cons] at h
      obtain ⟨e, he⟩ := h.1
      obtain ⟨es, hes⟩ := ih h.2
      exact ⟨e :: es, by simp [expressions?, he, hes]⟩

/-- A tree whose annotations are right has an expression if its variables have names without a
surrogate. -/
theorem exists_expression? (hplain : ∀ v ∈ schema, v.1.IsPlain) (ht : t.WellKinded schema registry)
    (column : Nat) : ∃ e, t.expression? column = some e := by
  have hbinary {op : BinaryOperator} {l r : Tree} {k : Kind} (hl : ∃ e, l.expression? column = some e)
      (hr : ∃ e, r.expression? column = some e) (hop : ∀ symbol, op ≠ .unknown symbol) :
      ∃ e, (binary op l r k).expression? column = some e := by
    obtain ⟨left, hleft⟩ := hl
    obtain ⟨right, hright⟩ := hr
    cases op with
    | unknown symbol => exact absurd rfl (hop symbol)
    | _ => exact ⟨_, by rw [expression?, hleft, hright]; rfl⟩
  induction ht with
  | truth b => exact ⟨_, rfl⟩
  | text u => exact ⟨_, rfl⟩
  | number x hx => exact ⟨_, rfl⟩
  | reference n k hk =>
      obtain ⟨name, hname⟩ := (hplain _ (mem_of_lookup hk)).exists_string?
      exact ⟨.name column name, by rw [expression?, hname]; rfl⟩
  | sign op t ho _ _ ih =>
      obtain ⟨e, he⟩ := ih
      rcases ho with rfl | rfl <;>
        exact ⟨_, expression?_unary_eq_some_iff.2 ⟨_, e, rfl, he, rfl⟩⟩
  | not t _ _ ih =>
      obtain ⟨e, he⟩ := ih
      exact ⟨_, expression?_unary_eq_some_iff.2 ⟨_, e, rfl, he, rfl⟩⟩
  | concatenation l r _ _ _ _ ihl ihr => exact hbinary ihl ihr (fun _ h => by cases h)
  | arithmetic op l r _ _ _ _ ihl ihr => exact hbinary ihl ihr (fun _ h => by cases h)
  | comparison op l r _ _ _ _ ihl ihr => exact hbinary ihl ihr (fun _ h => by cases h)
  | connective op l r ho _ _ _ _ ihl ihr =>
      exact hbinary ihl ihr (fun _ h => by rcases ho with rfl | rfl <;> cases h)
  | call f args _ _ _ _ _ ih =>
      obtain ⟨es, hes⟩ := exists_expressions? ih
      exact ⟨_, expression?_call_eq_some_iff.2
        ⟨f.name, es, Text.string?_ofString f.name, expressions?_eq_some_iff.1 hes, rfl⟩⟩

end Tree

namespace Scope

/-- Every tree with the right annotations can be expressed, in a schema that gives no variable the
name of a truth value: lowering the expression of the tree gives back the tree itself, and the size of
the expression is the number of nodes. Names in expressions have no surrogates; a tree whose variables
have such names as well has an expression. -/
theorem lower_expression (s : Scope) (hnames : ∀ n ∈ truthNames, s.schema.lookup (n : Text) = none)
    {t : Tree} (ht : t.WellKinded s.schema s.registry) (column : Nat) :
    (∀ e, t.expression? column = some e → s.lower e = .ok t ∧ e.size = t.count) ∧
    ((∀ v ∈ s.schema, v.1.IsPlain) → ∃ e, t.expression? column = some e) := by
  refine ⟨fun e he => ?_, fun hplain => Tree.exists_expression? hplain ht column⟩
  have hback := givesBack_of_expression? hnames ht he
  exact ⟨hback.lower_eq, hback.size_eq⟩

/-- A condition with an operator of each table and a call that leaves out an argument. -/
theorem lower_expression_of_condition :
    let note : Tree := .reference "note" .string
    let greeting : Tree := .binary (.arithmetic .add) (.literal (.text "to ") .string)
      (.reference "account" .string) .string
    let named : Tree := .unary .not (.binary (.comparison .eq) note greeting .boolean) .boolean
    let rate : Tree := .unary .negate (.literal (.double 0.5) .number) .number
    let worth : Tree := .call "compound_interest"
      [.reference "amount" .number, rate, .reference "days_held" .number] .number
    let low : Tree := .binary (.comparison .le) (.reference "quantity" .number) worth .boolean
    let t : Tree := .binary .and named low .boolean
    t.WellKinded postingSchema Library.registry ∧
      ∃ e, t.expression? 1 = some e ∧
        lower ⟨"", postingSchema, Library.registry⟩ e = .ok t ∧ e.size = 14 := by
  intro note greeting named rate worth low t
  have hgreeting : greeting.WellKinded postingSchema Library.registry :=
    .concatenation _ _ (.text _) (.reference _ _ (by decide)) rfl rfl
  have hnamed : named.WellKinded postingSchema Library.registry :=
    .not _ (.comparison .eq _ _ (.reference _ _ (by decide)) hgreeting rfl (by decide)) rfl
  have hrate : rate.WellKinded postingSchema Library.registry :=
    .sign _ _ (.inl rfl) (.number _ (by decide +kernel)) rfl
  have hworth : worth.WellKinded postingSchema Library.registry := by
    refine .call Library.compoundInterestFunction _ (List.mem_cons_of_mem _ List.mem_cons_self)
      (by decide) (by decide) ?_ ?_
    · rw [List.forall_mem_cons, List.forall_mem_cons, List.forall_mem_singleton]
      exact ⟨.reference _ _ (by decide), hrate, .reference _ _ (by decide)⟩
    · exact List.forall_mem_cons.2 ⟨rfl, List.forall_mem_cons.2 ⟨rfl, List.forall_mem_singleton.2 rfl⟩⟩
  have ht : t.WellKinded postingSchema Library.registry :=
    .connective _ _ _ (.inl rfl) hnamed
      (.comparison .le _ _ (.reference _ _ (by decide)) hworth rfl (by decide)) rfl rfl
  obtain ⟨hback, hexists⟩ :=
    lower_expression ⟨"", postingSchema, Library.registry⟩ (by decide) ht 1
  have hplain : ∀ v ∈ postingSchema, v.1.IsPlain := by
    intro v hv
    obtain ⟨d, -, rfl⟩ := List.mem_map.1 hv
    exact Text.isPlain_ofString d.name
  obtain ⟨e, he⟩ := hexists hplain
  obtain ⟨hlower, hsize⟩ := hback e he
  exact ⟨ht, e, he, hlower, hsize⟩

end Scope

/-! ### Outlines -/

namespace Tree

variable {schema : Schema} {registry : Registry} {t : Tree}

theorem outlineKind_name (k : Kind) : outlineKind (.text k.name) = .ok k := by
  rw [outlineKind, Datum.asText?, Option.bind_some, Kind.ofName?_name]

theorem ofOutlines_outlines {ts : List Tree} (h : ∀ t ∈ ts, ofOutline t.outline = .ok (some t)) :
    ofOutlines (outlines ts) = .ok (some ts) := by
  induction ts with
  | nil => rfl
  | cons t ts ih =>
      rw [List.forall_mem_cons] at h
      rw [outlines, ofOutlines, h.1, ih h.2]
      rfl

theorem ofOutline_literal (v : Datum) (k : Kind) :
    ofOutline (literal v k).outline = .ok (some (literal v k)) := by
  have hread : ofOutline (literal v k).outline =
      (do return some (literal v (← outlineKind (.text k.name)))) := rfl
  rw [hread, outlineKind_name]
  rfl

theorem ofOutline_reference (n : Text) (k : Kind) :
    ofOutline (reference n k).outline = .ok (some (reference n k)) := by
  have hread : ofOutline (reference n k).outline =
      (do return some (reference n (← outlineKind (.text k.name)))) := rfl
  rw [hread, outlineKind_name]
  rfl

theorem ofOutline_unary {op : UnaryOperator} {k : Kind} (ho : .ofSymbol op.symbol = op)
    (h : ofOutline t.outline = .ok (some t)) :
    ofOutline (unary op t k).outline = .ok (some (unary op t k)) := by
  have hread : ofOutline (unary op t k).outline = (do
      let e ← ofOutline t.outline
      let k ← outlineKind (.text k.name)
      return e.map (fun e => unary (.ofSymbol op.symbol) e k)) := rfl
  rw [hread, h, outlineKind_name, ho]
  rfl

theorem ofOutline_binary {op : BinaryOperator} {l r : Tree} {k : Kind}
    (ho : .ofSymbol op.symbol = op) (hl : ofOutline l.outline = .ok (some l))
    (hr : ofOutline r.outline = .ok (some r)) :
    ofOutline (binary op l r k).outline = .ok (some (binary op l r k)) := by
  have hread : ofOutline (binary op l r k).outline = (do
      let l ← ofOutline l.outline
      let r ← ofOutline r.outline
      let k ← outlineKind (.text k.name)
      return l.bind (fun l => r.map (fun r => binary (.ofSymbol op.symbol) l r k))) := rfl
  rw [hread, hl, hr, outlineKind_name, ho]
  rfl

theorem ofOutline_call {n : Text} {args : List Tree} {k : Kind}
    (h : ∀ t ∈ args, ofOutline t.outline = .ok (some t)) :
    ofOutline (call n args k).outline = .ok (some (call n args k)) := by
  have hread : ofOutline (call n args k).outline = (do
      let args ← ofOutlines (outlines args)
      let k ← outlineKind (.text k.name)
      return args.map (fun args => call n args k)) := rfl
  rw [hread, ofOutlines_outlines h, outlineKind_name]
  rfl

/-- Nothing of a tree with the right annotations is lost in its outline. -/
theorem ofOutline_outline (h : t.WellKinded schema registry) :
    ofOutline t.outline = .ok (some t) := by
  induction h with
  | truth b => exact ofOutline_literal _ _
  | text s => exact ofOutline_literal _ _
  | number x _ => exact ofOutline_literal _ _
  | reference n k _ => exact ofOutline_reference n k
  | sign op t ho _ _ ih =>
      refine ofOutline_unary ?_ ih
      rcases ho with rfl | rfl <;> rfl
  | not t _ _ ih => exact ofOutline_unary rfl ih
  | concatenation l r _ _ _ _ ihl ihr => exact ofOutline_binary rfl ihl ihr
  | arithmetic op l r _ _ _ _ ihl ihr =>
      refine ofOutline_binary ?_ ihl ihr
      cases op <;> rfl
  | comparison op l r _ _ _ _ ihl ihr =>
      refine ofOutline_binary ?_ ihl ihr
      cases op <;> rfl
  | connective op l r ho _ _ _ _ ihl ihr =>
      refine ofOutline_binary ?_ ihl ihr
      rcases ho with rfl | rfl <;> rfl
  | call f args _ _ _ _ _ ih => exact ofOutline_call ih

end Tree

end Appraisal.Formula
