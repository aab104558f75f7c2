import Mathlib.Data.List.Forall2
import Appraisal.Formula.Lowering
import Appraisal.Proofs.Formula.Induction
import Appraisal.Proofs.Number.Fixed
import Appraisal.Proofs.Outcome

/-!
# What lowering gives

For each step of the lowering, the condition under which it succeeds and the tree that it then
gives. A step that does not succeed refuses the formula as malformed.
-/

namespace Appraisal.Formula.Scope

open Outcome

variable (s : Scope) {column : Nat}

/-! ### Steps -/

theorem constant_eq_ok_iff {v : Constant} {u : Tree} :
    s.constant column v = .ok u ↔
      (∃ b, v = .truth b ∧ .literal (.truth b) .boolean = u) ∨
      (∃ n x, v = .whole n ∧ floatOfInt? n = some x ∧ .literal (.double x) .number = u) ∨
      (∃ x, v = .double x ∧ x.isFinite = true ∧ .literal (.double x) .number = u) ∨
      (∃ t, v = .text t ∧ .literal (.text t) .string = u) := by
  cases v with
  | whole n => cases hx : floatOfInt? n <;> simp [constant, hx, refuse]
  | double x => by_cases hx : x.isFinite = true <;> simp [constant, hx, refuse]
  | _ => simp [constant, refuse]

def truthNames : List String := ["true", "True", "false", "False"]

theorem truthName?_eq_none_iff {n : String} : truthName? n = none ↔ n ∉ truthNames := by
  unfold truthName? truthNames
  split <;> simp_all

theorem name_eq_ok_iff {n : String} {u : Tree} :
    s.name column n = .ok u ↔
      (∃ b, truthName? n = some b ∧ .literal (.truth b) .boolean = u) ∨
      (truthName? n = none ∧ ∃ k, s.schema.lookup (n : Text) = some k ∧ .reference n k = u) := by
  unfold name
  cases hb : truthName? n with
  | some b => simp
  | none => cases hk : s.schema.lookup (n : Text) <;> simp [refuse]

theorem demand_eq_ok_iff {t : Tree} {k : Kind} {what : Text} {u : Unit} :
    s.demand column t k what = .ok u ↔ t.kind = k := by
  unfold demand refuse
  split <;> simp_all

theorem unary_eq_ok_iff {op : PrefixOperator} {t u : Tree} :
    s.unary column op t = .ok u ↔
      (op = .negate ∧ t.kind = .number ∧ .unary .negate t .number = u) ∨
      (op = .plus ∧ t.kind = .number ∧ .unary .plus t .number = u) ∨
      (op = .not ∧ t.kind = .boolean ∧ .unary .not t .boolean = u) := by
  cases op <;> simp [unary, refuse, bind_eq_ok_iff, demand_eq_ok_iff]

theorem binary_eq_ok_iff {op : Arithmetic} {l r u : Tree} :
    s.binary column op l r = .ok u ↔
      (op = .add ∧ l.kind = .string ∧ r.kind = .string ∧
        .binary (.arithmetic .add) l r .string = u) ∨
      (l.kind = .number ∧ r.kind = .number ∧ .binary (.arithmetic op) l r .number = u) := by
  unfold binary
  split
  case isTrue h =>
    obtain ⟨rfl, hl, hr⟩ := h
    simp [hl, hr]
  case isFalse h =>
    have hn : ¬ (op = .add ∧ l.kind = .string ∧ r.kind = .string ∧
        .binary (.arithmetic .add) l r .string = u) := fun ⟨ho, hl, hr, _⟩ => h ⟨ho, hl, hr⟩
    simp [bind_eq_ok_iff, demand_eq_ok_iff, hn]

theorem forM_demand_eq_ok_iff {ts : List Tree} {k : Kind} {what : Text} {u : Unit} :
    ts.forM (fun e => s.demand column e k what) = .ok u ↔ ∀ t ∈ ts, t.kind = k := by
  induction ts with
  | nil => simp
  | cons t ts ih =>
      rw [List.forM_eq_forM] at ih ⊢
      simp [List.forM_cons, bind_eq_ok_iff, demand_eq_ok_iff, ih]

def connector (conjunction : Bool) : BinaryOperator := if conjunction then .and else .or

theorem connective_eq_ok_iff {conjunction : Bool} {ts : List Tree} {u : Tree} :
    s.connective column conjunction ts = .ok u ↔
      (∀ t ∈ ts, t.kind = .boolean) ∧
        ∃ first rest, ts = first :: rest ∧ joined (connector conjunction) first rest = u := by
  unfold connective
  rw [bind_eq_ok_iff]
  simp only [forM_demand_eq_ok_iff]
  cases ts with
  | nil => simp [refuse]
  | cons t ts => simp [connector]

theorem link_eq_ok_iff {relation : Relation} {l r u : Tree} :
    s.link column l relation r = .ok u ↔
      ∃ op, comparison? relation = some op ∧ l.kind = r.kind ∧
        (op.isOrder = true → l.kind.isOrdered = true) ∧
        .binary (.comparison op) l r .boolean = u := by
  unfold link
  cases hc : comparison? relation with
  | none => simp [refuse]
  | some op =>
      by_cases hk : l.kind = r.kind
      · by_cases ho : op.isOrder = true
        · by_cases hr : r.kind.isOrdered = true
          · simp [hk, ho, hr]
          · simp [hk, ho, hr, refuse]
        · simp [hk, ho]
      · simp [hk, refuse]

theorem links_cons_eq_ok_iff {l r : Tree} {relation : Relation} {rest : List (Relation × Tree)}
    {us : List Tree} :
    s.links column l ((relation, r) :: rest) = .ok us ↔
      ∃ u others, s.link column l relation r = .ok u ∧ s.links column r rest = .ok others ∧
        u :: others = us := by
  simp [links, bind_eq_ok_iff]

theorem comparison_eq_ok_iff {l u : Tree} {rest : List (Relation × Tree)} :
    s.comparison column l rest = .ok u ↔
      ∃ first others, s.links column l rest = .ok (first :: others) ∧
        joined .and first others = u := by
  unfold comparison
  rw [bind_eq_ok_iff]
  constructor
  · rintro ⟨us, hl, hu⟩
    cases us with
    | nil => simp [refuse] at hu
    | cons first others => exact ⟨first, others, hl, by simpa using hu⟩
  · rintro ⟨first, others, hl, rfl⟩
    exact ⟨first :: others, hl, rfl⟩

theorem accepts_iff {f : Function} {n : Nat} :
    f.accepts n = true ↔ f.required ≤ n ∧ n ≤ f.params.length := by
  unfold Function.accepts
  rw [Bool.and_eq_true, decide_eq_true_eq, decide_eq_true_eq]
  rfl

theorem callee_name_eq_ok_iff {c : Nat} {n : String} {args named : List Surface} {f : Function} :
    s.callee column (.name c n) args named = .ok f ↔
      named = [] ∧ (∀ a ∈ args, a.isStarred = false) ∧ s.registry.find? n = some f ∧
        f.required ≤ args.length ∧ args.length ≤ f.params.length := by
  rw [← accepts_iff]
  simp only [callee]
  by_cases hn : named = []
  · by_cases ha : ∀ a ∈ args, a.isStarred = false
    · have hs : args.any Surface.isStarred = false := by simpa using ha
      cases hf : s.registry.find? n with
      | none => simp [hn, hs, refuse]
      | some g =>
          by_cases hg : g.accepts args.length = true
          · have hgf : g = f ↔ (∀ a ∈ args, a.isStarred = false) ∧ g = f ∧
                f.accepts args.length = true :=
              ⟨fun h => ⟨ha, h, h ▸ hg⟩, fun h => h.2.1⟩
            simpa [hn, hs, hg] using hgf
          · have hgf : ¬ (g = f ∧ f.accepts args.length = true) := fun ⟨h, hf⟩ => hg (h ▸ hf)
            simpa [hn, hs, hg, refuse] using fun _ h => by simpa [h] using hgf
    · have hs : args.any Surface.isStarred = true := by simpa using ha
      simp [hn, hs, ha, refuse]
  · simp [hn, refuse]

theorem callee_eq_ok {target : Surface} {args named : List Surface} {f : Function}
    (h : s.callee column target args named = .ok f) : ∃ c n, target = .name c n := by
  cases target with
  | name c n => exact ⟨c, n, rfl⟩
  | _ => simp [callee, refuse] at h

theorem misplaced?_eq_none_iff {position : Nat} {ks : List Kind} {ts : List Tree} :
    misplaced? position ks ts = none ↔ ∀ p ∈ ts.zip ks, p.1.kind = p.2 := by
  induction ks generalizing ts position with
  | nil => simp [misplaced?]
  | cons k ks ih =>
      cases ts with
      | nil => simp [misplaced?]
      | cons t ts =>
          by_cases hk : t.kind = k
          · simp [misplaced?, hk, ih]
          · simp [misplaced?, hk]

theorem call_eq_ok_iff {f : Function} {ts : List Tree} {u : Tree} :
    s.call column f ts = .ok u ↔
      (∀ p ∈ ts.zip f.params, p.1.kind = p.2) ∧ .call f.name ts f.returns = u := by
  rw [← @misplaced?_eq_none_iff 1]
  unfold call
  cases hm : misplaced? 1 f.params ts with
  | none => simp
  | some m => simp [refuse]

/-! ### Lists of operands -/

theorem lowerAll_eq_ok_iff {es : List Surface} {ts : List Tree} :
    s.lowerAll es = .ok ts ↔ List.Forall₂ (fun e t => s.lower e = .ok t) es ts := by
  induction es generalizing ts with
  | nil => simp [lowerAll, eq_comm]
  | cons e es ih =>
      simp only [lowerAll, bind_eq_ok_iff, ih, List.forall₂_cons_left_iff]
      constructor
      · rintro ⟨t, ht, rest, hrest, h⟩
        exact ⟨t, rest, ht, hrest, by simpa using h.symm⟩
      · rintro ⟨t, rest, ht, hrest, rfl⟩
        exact ⟨t, ht, rest, hrest, rfl⟩

theorem lowerLink_eq_ok_iff {l : Relation × Surface} {r : Relation × Tree} :
    s.lowerLink l = .ok r ↔ l.1 = r.1 ∧ s.lower l.2 = .ok r.2 := by
  obtain ⟨relation, e⟩ := l
  obtain ⟨relation', t⟩ := r
  simp only [lowerLink, bind_eq_ok_iff]
  constructor
  · rintro ⟨u, hu, h⟩
    obtain ⟨rfl, rfl⟩ := Prod.mk.inj (Except.ok.inj h)
    exact ⟨rfl, hu⟩
  · rintro ⟨rfl, ht⟩
    exact ⟨t, ht, rfl⟩

theorem lowerLinks_eq_ok_iff {ls : List (Relation × Surface)} {rs : List (Relation × Tree)} :
    s.lowerLinks ls = .ok rs ↔
      List.Forall₂ (fun l r => l.1 = r.1 ∧ s.lower l.2 = .ok r.2) ls rs := by
  induction ls generalizing rs with
  | nil => simp [lowerLinks, eq_comm]
  | cons l ls ih =>
      simp only [lowerLinks, bind_eq_ok_iff, ih, List.forall₂_cons_left_iff, lowerLink_eq_ok_iff]
      constructor
      · rintro ⟨r, hr, rest, hrest, h⟩
        exact ⟨r, rest, hr, hrest, by simpa using h.symm⟩
      · rintro ⟨r, rest, hr, hrest, rfl⟩
        exact ⟨r, hr, rest, hrest, rfl⟩

/-! ### Refusals -/

def unknownVariable : Text := "unknown variable "

/-- What is said of anything else starts with other words or does not end with a quoted name. -/
def IsOther (detail : Text) : Prop :=
  ¬ unknownVariable.toList <+: detail.toList ∨
    ∃ l ∈ detail.toList.getLast?, l ≠ Letter.char '\x27'

theorem isOther_append {t u : Text} (h : ∃ l ∈ u.toList.getLast?, l ≠ Letter.char '\x27') :
    IsOther (t ++ u) := by
  obtain ⟨l, hl, hne⟩ := h
  exact .inr ⟨l, by simp [Option.mem_def.1 hl], hne⟩

theorem isOther_start {t : Text} (h : ¬ unknownVariable.toList <+: t.toList)
    (h' : ¬ t.toList <+: unknownVariable.toList) (u : Text) : IsOther (t ++ u) := by
  refine .inl (fun hstart => ?_)
  rcases le_total unknownVariable.toList.length t.toList.length with hle | hle
  · exact h (List.prefix_of_prefix_length_le hstart (List.prefix_append _ _) hle)
  · exact h' (List.prefix_of_prefix_length_le (List.prefix_append _ _) hstart hle)

theorem isOther_kind (t : Text) (k : Kind) : IsOther (t ++ (k.name : Text)) :=
  isOther_append (by cases k <;> decide)

theorem isOther_count (t : Text) (n : Nat) : IsOther (t ++ (intText n : Text)) := by
  obtain ⟨ds, hds, hlt, -⟩ := exists_digitsOf n
  have hne : ds ≠ [] := by
    rintro rfl
    exact digitsOf_ne_nil n hds
  have hdigit : ∀ d < 10, Letter.char (digitChar d) ≠ .char '\x27' := by decide
  refine isOther_append ⟨.char (digitChar (ds.getLast hne)), ?_, hdigit _ (hlt _ (List.getLast_mem hne))⟩
  have htext : (intText n : Text).toList = ds.map (fun d => .char (digitChar d)) := by
    have hint : intText n = String.ofList (digitsOf n) := rfl
    rw [hint, hds, Text.ofString, String.toList_ofList, List.map_map]
    rfl
  rw [htext, List.getLast?_map, List.getLast?_eq_some_getLast hne]
  rfl

/-- What a refusal says of a column: a name that is not known stands in a relation to it. -/
def Says (R : Nat → String → Prop) (column : Nat) (detail : Text) : Prop :=
  IsOther detail ∨ ∃ n : String, detail = unknownVariable ++ (Text.quoted n : Text) ∧ R column n

def IsRefusal (source : Text) (R : Nat → String → Prop) (f : FormulaError) : Prop :=
  ∃ (detail : Text) (column : Nat), f = .malformed source detail column ∧ Says R column detail

abbrev Refuses (R : Nat → String → Prop) {α : Type} (x : Except FormulaError α) : Prop :=
  Sound (IsRefusal s.source R) (fun _ => True) x

variable {R : Nat → String → Prop}

theorem refuse_refuses {α : Type} {detail : Text} (h : IsOther detail) :
    s.Refuses R (s.refuse column detail : Except FormulaError α) := ⟨detail, column, rfl, .inl h⟩

theorem ok_refuses {α : Type} {a : α} : s.Refuses R (.ok a) := trivial

theorem Refuses.bind {s : Scope} {α β : Type} {x : Except FormulaError α}
    {f : α → Except FormulaError β} (hx : s.Refuses R x) (hf : ∀ a, s.Refuses R (f a)) :
    s.Refuses R (x >>= f) :=
  Sound.bind hx (fun a _ => hf a)

theorem demand_refuses {t : Tree} {k : Kind} {what : Text} :
    s.Refuses R (s.demand column t k what) := by
  unfold demand
  split
  · exact s.ok_refuses
  · exact s.refuse_refuses (isOther_kind _ _)

theorem constant_refuses {v : Constant} : s.Refuses R (s.constant column v) := by
  have hlarge : IsOther tooLarge := .inl (by decide)
  unfold constant
  split
  · exact s.ok_refuses
  · split
    · exact s.ok_refuses
    · exact s.refuse_refuses hlarge
  · split
    · exact s.ok_refuses
    · exact s.refuse_refuses hlarge
  · exact s.ok_refuses
  · exact s.refuse_refuses (isOther_start (by decide) (by decide) _)

/-- A name is refused only if it is not known. -/
theorem name_refuses {n : String} (h : R column n) : s.Refuses R (s.name column n) := by
  unfold name
  split
  · exact s.ok_refuses
  · split
    · exact s.ok_refuses
    · exact ⟨_, column, rfl, .inr ⟨n, rfl, h⟩⟩

theorem unary_refuses {op : PrefixOperator} {t : Tree} : s.Refuses R (s.unary column op t) := by
  cases op with
  | invert => exact s.refuse_refuses (.inl (by decide))
  | _ => exact s.demand_refuses.bind (fun _ => s.ok_refuses)

theorem binary_refuses {op : Arithmetic} {l r : Tree} : s.Refuses R (s.binary column op l r) := by
  unfold binary
  split
  · exact s.ok_refuses
  · exact s.demand_refuses.bind (fun _ => s.demand_refuses.bind (fun _ => s.ok_refuses))

theorem forM_demand_refuses {ts : List Tree} {k : Kind} {what : Text} :
    s.Refuses R (ts.forM (fun e => s.demand column e k what)) := by
  induction ts with
  | nil => exact s.ok_refuses
  | cons t ts ih => exact s.demand_refuses.bind (fun _ => ih)

theorem connective_refuses {conjunction : Bool} {ts : List Tree} :
    s.Refuses R (s.connective column conjunction ts) := by
  refine s.forM_demand_refuses.bind (fun _ => ?_)
  split
  · exact s.ok_refuses
  · exact s.refuse_refuses (.inl (by decide))

theorem link_refuses {relation : Relation} {l r : Tree} :
    s.Refuses R (s.link column l relation r) := by
  unfold link
  split
  · exact s.refuse_refuses (isOther_append (by decide))
  · split
    · exact s.refuse_refuses (isOther_kind _ _)
    · split
      · exact s.refuse_refuses (isOther_kind _ _)
      · exact s.ok_refuses

theorem links_refuses {l : Tree} {rest : List (Relation × Tree)} :
    s.Refuses R (s.links column l rest) := by
  induction rest generalizing l with
  | nil => exact s.ok_refuses
  | cons r rest ih =>
      exact s.link_refuses.bind (fun _ => ih.bind (fun _ => s.ok_refuses))

theorem comparison_refuses {l : Tree} {rest : List (Relation × Tree)} :
    s.Refuses R (s.comparison column l rest) := by
  refine s.links_refuses.bind (fun us => ?_)
  cases us with
  | nil => exact s.refuse_refuses (.inl (by decide))
  | cons first others => exact s.ok_refuses

theorem callee_refuses {target : Surface} {args named : List Surface} :
    s.Refuses R (s.callee column target args named) := by
  unfold callee
  split
  · split
    · exact s.refuse_refuses (isOther_append (by decide))
    · split
      · exact s.refuse_refuses (isOther_append (by decide))
      · split
        · exact s.refuse_refuses (isOther_start (by decide) (by decide) _)
        · split
          · exact s.ok_refuses
          · exact s.refuse_refuses (isOther_count _ _)
  · exact s.refuse_refuses (.inl (by decide))

theorem call_refuses {f : Function} {ts : List Tree} : s.Refuses R (s.call column f ts) := by
  unfold call
  split
  · exact s.refuse_refuses (isOther_kind _ _)
  · exact s.ok_refuses

theorem lowerAll_refuses {es : List Surface} (h : ∀ e ∈ es, s.Refuses R (s.lower e)) :
    s.Refuses R (s.lowerAll es) := by
  induction es with
  | nil => exact s.ok_refuses
  | cons e es ih =>
      rw [List.forall_mem_cons] at h
      exact h.1.bind (fun _ => (ih h.2).bind (fun _ => s.ok_refuses))

theorem lowerLinks_refuses {ls : List (Relation × Surface)}
    (h : ∀ l ∈ ls, s.Refuses R (s.lower l.2)) : s.Refuses R (s.lowerLinks ls) := by
  induction ls with
  | nil => exact s.ok_refuses
  | cons l ls ih =>
      rw [List.forall_mem_cons] at h
      have hl : s.Refuses R (s.lowerLink l) := by
        obtain ⟨relation, e⟩ := l
        exact Refuses.bind h.1 (fun _ => s.ok_refuses)
      exact hl.bind (fun _ => (ih h.2).bind (fun _ => s.ok_refuses))

/-- An expression that is not lowered is refused as malformed, whatever is wrong with it. What is said
of an unknown variable is said of the column of its name. -/
theorem lower_refuses {e : Surface} (h : e.Names R) : s.Refuses R (s.lower e) := by
  induction h with
  | constant c v => exact s.constant_refuses
  | name c n hn => exact s.name_refuses hn
  | unary c op e _ ih => exact ih.bind (fun _ => s.unary_refuses)
  | binary c op l r _ _ ihl ihr =>
      unfold lower
      split
      · exact s.refuse_refuses (.inl (by cases op <;> decide))
      · exact ihl.bind (fun _ => ihr.bind (fun _ => s.binary_refuses))
  | connective c b es _ ih => exact (s.lowerAll_refuses ih).bind (fun _ => s.connective_refuses)
  | comparison c l ls _ _ ihl ihs =>
      exact ihl.bind (fun _ => (s.lowerLinks_refuses ihs).bind (fun _ => s.comparison_refuses))
  | call c f args named _ ih =>
      exact s.callee_refuses.bind (fun _ => (s.lowerAll_refuses ih).bind (fun _ => s.call_refuses))
  | other c k parts => exact s.refuse_refuses (.inl (by cases k <;> decide))

end Appraisal.Formula.Scope
