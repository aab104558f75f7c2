import Appraisal.Proofs.Formula.Lowering
import Appraisal.Proofs.Number.Bits

/-!
# Kinds of expressions

The rules by which an expression has a kind, and the rules that the annotations of a tree follow.
Lowering succeeds exactly on the expressions that have a kind; the tree then has this kind, and each
of its annotations is the one that the parts of the node and the registry determine.
-/

namespace Appraisal.Formula

open Outcome Scope

def Relation.Relates (r : Relation) (k : Kind) : Prop :=
  r = .eq ∨ r = .ne ∨ (r ∈ [lt, le, gt, ge] ∧ k ≠ .boolean)

inductive Surface.HasKind (schema : Schema) (registry : Registry) : Surface → Kind → Prop
  | truth (c : Nat) (b : Bool) : HasKind schema registry (.constant c (.truth b)) .boolean
  | text (c : Nat) (t : Text) : HasKind schema registry (.constant c (.text t)) .string
  | whole (c n : Nat) (hn : (Binary.nearest false n 1).isFinite = true) :
      HasKind schema registry (.constant c (.whole n)) .number
  | double (c : Nat) (x : Float) (hx : x.isFinite = true) :
      HasKind schema registry (.constant c (.double x)) .number
  | truthName (c : Nat) (n : String) (hn : n ∈ truthNames) :
      HasKind schema registry (.name c n) .boolean
  | reference (c : Nat) (n : String) (k : Kind) (hn : n ∉ truthNames)
      (hk : schema.lookup (n : Text) = some k) : HasKind schema registry (.name c n) k
  | sign (c : Nat) (op : PrefixOperator) (e : Surface) (ho : op = .negate ∨ op = .plus)
      (he : HasKind schema registry e .number) : HasKind schema registry (.unary c op e) .number
  | not (c : Nat) (e : Surface) (he : HasKind schema registry e .boolean) :
      HasKind schema registry (.unary c .not e) .boolean
  | concatenation (c : Nat) (l r : Surface) (hl : HasKind schema registry l .string)
      (hr : HasKind schema registry r .string) :
      HasKind schema registry (.binary c .add l r) .string
  | arithmetic (c : Nat) (op : InfixOperator) (l r : Surface)
      (ho : op ∈ [InfixOperator.add, .sub, .mul, .div, .mod])
      (hl : HasKind schema registry l .number) (hr : HasKind schema registry r .number) :
      HasKind schema registry (.binary c op l r) .number
  | connective (c : Nat) (conjunction : Bool) (es : List Surface) (hes : es ≠ [])
      (h : ∀ e ∈ es, HasKind schema registry e .boolean) :
      HasKind schema registry (.connective c conjunction es) .boolean
  | comparison (c : Nat) (l : Surface) (links : List (Relation × Surface)) (k : Kind)
      (hls : links ≠ []) (hl : HasKind schema registry l k)
      (hr : ∀ link ∈ links, HasKind schema registry link.2 k)
      (hk : ∀ link ∈ links, link.1.Relates k) :
      HasKind schema registry (.comparison c l links) .boolean
  | call (c c' : Nat) (f : Function) (args : List Surface) (hf : f ∈ registry.functions)
      (hmin : f.required ≤ args.length) (hmax : args.length ≤ f.params.length)
      (h : ∀ p ∈ args.zip f.params, HasKind schema registry p.1 p.2) :
      HasKind schema registry (.call c (.name c' f.name) args []) f.returns

/-- The trees in which every annotation is the one that the parts and the registry determine. -/
inductive Tree.WellKinded (schema : Schema) (registry : Registry) : Tree → Prop
  | truth (b : Bool) : WellKinded schema registry (.literal (.truth b) .boolean)
  | text (t : Text) : WellKinded schema registry (.literal (.text t) .string)
  | number (x : Float) (hx : x.isFinite = true) :
      WellKinded schema registry (.literal (.double x) .number)
  | reference (n : Text) (k : Kind) (hk : schema.lookup n = some k) :
      WellKinded schema registry (.reference n k)
  | sign (op : UnaryOperator) (t : Tree) (ho : op = .negate ∨ op = .plus)
      (h : WellKinded schema registry t) (hk : t.kind = .number) :
      WellKinded schema registry (.unary op t .number)
  | not (t : Tree) (h : WellKinded schema registry t) (hk : t.kind = .boolean) :
      WellKinded schema registry (.unary .not t .boolean)
  | concatenation (l r : Tree) (hl : WellKinded schema registry l)
      (hr : WellKinded schema registry r) (hlk : l.kind = .string) (hrk : r.kind = .string) :
      WellKinded schema registry (.binary (.arithmetic .add) l r .string)
  | arithmetic (op : Arithmetic) (l r : Tree) (hl : WellKinded schema registry l)
      (hr : WellKinded schema registry r) (hlk : l.kind = .number) (hrk : r.kind = .number) :
      WellKinded schema registry (.binary (.arithmetic op) l r .number)
  | comparison (op : Comparison) (l r : Tree) (hl : WellKinded schema registry l)
      (hr : WellKinded schema registry r) (hk : l.kind = r.kind)
      (ho : op.isOrder = true → l.kind.isOrdered = true) :
      WellKinded schema registry (.binary (.comparison op) l r .boolean)
  | connective (op : BinaryOperator) (l r : Tree) (ho : op = .and ∨ op = .or)
      (hl : WellKinded schema registry l) (hr : WellKinded schema registry r)
      (hlk : l.kind = .boolean) (hrk : r.kind = .boolean) :
      WellKinded schema registry (.binary op l r .boolean)
  | call (f : Function) (args : List Tree) (hf : f ∈ registry.functions)
      (hmin : f.required ≤ args.length) (hmax : args.length ≤ f.params.length)
      (h : ∀ t ∈ args, WellKinded schema registry t)
      (hk : ∀ p ∈ args.zip f.params, p.1.kind = p.2) :
      WellKinded schema registry (.call f.name args f.returns)

namespace Scope

variable (s : Scope) {column : Nat}

/-! ### Operators -/

theorem relates_iff {r : Relation} {k : Kind} :
    r.Relates k ↔ ∃ op, comparison? r = some op ∧ (op.isOrder = true → k.isOrdered = true) := by
  unfold Relation.Relates
  cases r <;> cases k <;> simp [comparison?, Comparison.isOrder, Kind.isOrdered]

theorem arithmetic?_isSome_iff {op : InfixOperator} :
    op ∈ [InfixOperator.add, .sub, .mul, .div, .mod] ↔ ∃ a, arithmetic? op = some a := by
  cases op <;> simp [arithmetic?]

theorem arithmetic?_eq_add_iff {op : InfixOperator} :
    arithmetic? op = some .add ↔ op = .add := by
  cases op <;> simp [arithmetic?]

/-! ### Joined operands -/

theorem kind_joined {op : BinaryOperator} {first : Tree} {rest : List Tree}
    (h : first.kind = .boolean) : (joined op first rest).kind = .boolean := by
  unfold joined
  induction rest generalizing first with
  | nil => exact h
  | cons t ts ih => exact ih rfl

theorem wellKinded_joined {op : BinaryOperator} (ho : op = .and ∨ op = .or) {first : Tree}
    {rest : List Tree}
    (h : ∀ t ∈ first :: rest, t.WellKinded s.schema s.registry ∧ t.kind = .boolean) :
    (joined op first rest).WellKinded s.schema s.registry := by
  unfold joined
  induction rest generalizing first with
  | nil => exact (h first (by simp)).1
  | cons t ts ih =>
      obtain ⟨hf, hfk⟩ := h first (by simp)
      obtain ⟨ht, htk⟩ := h t (by simp)
      refine ih (fun u hu => ?_)
      rcases List.mem_cons.1 hu with rfl | hu
      · exact ⟨.connective op first t ho hf ht hfk htk, rfl⟩
      · exact h u (by simp [hu])

/-! ### Chains -/

theorem exists_link_iff {l r : Tree} {relation : Relation} :
    (∃ u, s.link column l relation r = .ok u) ↔ r.kind = l.kind ∧ relation.Relates l.kind := by
  simp only [link_eq_ok_iff, relates_iff]
  constructor
  · rintro ⟨u, op, ho, hk, hr, -⟩
    exact ⟨hk.symm, op, ho, hr⟩
  · rintro ⟨hk, op, ho, hr⟩
    exact ⟨_, op, ho, hk.symm, hr, rfl⟩

/-- A chain is accepted when all its operands are of one kind and its relations are among those that
have a meaning there. -/
theorem exists_links_iff {l : Tree} {rest : List (Relation × Tree)} :
    (∃ us, s.links column l rest = .ok us) ↔
      ∀ r ∈ rest, r.2.kind = l.kind ∧ r.1.Relates l.kind := by
  induction rest generalizing l with
  | nil => simp [links]
  | cons r rest ih =>
      obtain ⟨relation, t⟩ := r
      have hlink := @exists_link_iff s column l t relation
      rw [List.forall_mem_cons]
      constructor
      · rintro ⟨us, h⟩
        obtain ⟨u, others, hu, ho, -⟩ := s.links_cons_eq_ok_iff.1 h
        obtain ⟨hk, hr⟩ := hlink.1 ⟨u, hu⟩
        have hrest := ih.1 ⟨others, ho⟩
        rw [hk] at hrest
        exact ⟨⟨hk, hr⟩, hrest⟩
      · rintro ⟨⟨hk, hr⟩, hrest⟩
        obtain ⟨u, hu⟩ := hlink.2 ⟨hk, hr⟩
        obtain ⟨others, ho⟩ := ih.2 (by rw [hk]; exact hrest)
        exact ⟨u :: others, s.links_cons_eq_ok_iff.2 ⟨u, others, hu, ho, rfl⟩⟩

theorem wellKinded_links {l : Tree} {rest : List (Relation × Tree)} {us : List Tree}
    (h : s.links column l rest = .ok us) (hl : l.WellKinded s.schema s.registry)
    (hr : ∀ r ∈ rest, r.2.WellKinded s.schema s.registry) :
    ∀ u ∈ us, u.WellKinded s.schema s.registry ∧ u.kind = .boolean := by
  induction rest generalizing l us with
  | nil =>
      obtain rfl : [] = us := Except.ok.inj h
      simp
  | cons r rest ih =>
      obtain ⟨relation, t⟩ := r
      obtain ⟨u, others, hu, ho, rfl⟩ := s.links_cons_eq_ok_iff.1 h
      obtain ⟨op, -, hk, hord, rfl⟩ := s.link_eq_ok_iff.1 hu
      rw [List.forall_mem_cons] at hr ⊢
      exact ⟨⟨.comparison op l t hl hr.1 hk hord, rfl⟩, ih ho hr.1 hr.2⟩

theorem exists_comparison {l : Tree} {rest : List (Relation × Tree)} (hne : rest ≠ [])
    (h : ∀ r ∈ rest, r.2.kind = l.kind ∧ r.1.Relates l.kind) :
    ∃ u, s.comparison column l rest = .ok u ∧ u.kind = .boolean := by
  obtain ⟨us, hus⟩ := (@exists_links_iff s column l rest).2 h
  cases rest with
  | nil => exact absurd rfl hne
  | cons r rest =>
      obtain ⟨relation, t⟩ := r
      obtain ⟨u, others, hu, -, rfl⟩ := s.links_cons_eq_ok_iff.1 hus
      obtain ⟨op, -, -, -, rfl⟩ := s.link_eq_ok_iff.1 hu
      exact ⟨_, s.comparison_eq_ok_iff.2 ⟨_, others, hus, rfl⟩, kind_joined rfl⟩

theorem ne_nil_of_comparison {l u : Tree} {rest : List (Relation × Tree)}
    (h : s.comparison column l rest = .ok u) : rest ≠ [] := by
  rintro rfl
  obtain ⟨first, others, hl, -⟩ := s.comparison_eq_ok_iff.1 h
  simp [links] at hl

/-! ### Operands -/

theorem exists_lowerAll {es : List Surface} (h : ∀ e ∈ es, ∃ t, s.lower e = .ok t) :
    ∃ ts, s.lowerAll es = .ok ts := by
  induction es with
  | nil => exact ⟨[], rfl⟩
  | cons e es ih =>
      rw [List.forall_mem_cons] at h
      obtain ⟨t, ht⟩ := h.1
      obtain ⟨ts, hts⟩ := ih h.2
      exact ⟨t :: ts, by simp [lowerAll, ht, hts]⟩

theorem exists_lowerLinks {ls : List (Relation × Surface)}
    (h : ∀ l ∈ ls, ∃ t, s.lower l.2 = .ok t) : ∃ rs, s.lowerLinks ls = .ok rs := by
  induction ls with
  | nil => exact ⟨[], rfl⟩
  | cons l ls ih =>
      rw [List.forall_mem_cons] at h
      obtain ⟨t, ht⟩ := h.1
      obtain ⟨rs, hrs⟩ := ih h.2
      obtain ⟨relation, e⟩ := l
      exact ⟨(relation, t) :: rs, by simp [lowerLinks, lowerLink, ht, hrs]⟩

/-- What holds of a list pair by pair with some kinds holds of a related list with them. -/
theorem forall_zip_of_forall₂ {α β : Type} {R : α → β → Prop} {P : α → Kind → Prop}
    {Q : β → Kind → Prop} {as : List α} {bs : List β} (h : List.Forall₂ R as bs)
    (hpq : ∀ a ∈ as, ∀ b ∈ bs, ∀ k, R a b → P a k → Q b k) {ks : List Kind}
    (hp : ∀ p ∈ as.zip ks, P p.1 p.2) : ∀ p ∈ bs.zip ks, Q p.1 p.2 := by
  induction h generalizing ks with
  | nil => simp
  | @cons a b as bs hab _ ih =>
      cases ks with
      | nil => simp
      | cons k ks =>
          rw [List.zip_cons_cons, List.forall_mem_cons] at hp ⊢
          exact ⟨hpq a (by simp) b (by simp) k hab hp.1,
            ih (fun a' ha b' hb => hpq a' (by simp [ha]) b' (by simp [hb])) hp.2⟩

theorem exists_mem_zip {α : Type} {as : List α} {ks : List Kind} (h : as.length ≤ ks.length)
    {a : α} (ha : a ∈ as) : ∃ k, (a, k) ∈ as.zip ks := by
  obtain ⟨i, hi, rfl⟩ := List.mem_iff_getElem.1 ha
  refine ⟨ks[i], List.mem_iff_getElem.2 ⟨i, by simp; omega, by simp⟩⟩

/-! ### Soundness -/

/-- The expression has the kind of every tree that it is lowered to, and the tree is annotated as
its parts and the registry determine. -/
def IsTyped (e : Surface) : Prop :=
  ∀ t, s.lower e = .ok t →
    e.HasKind s.schema s.registry t.kind ∧ t.WellKinded s.schema s.registry

variable {s}

theorem isTyped_constant {c : Nat} {v : Constant} : s.IsTyped (.constant c v) := by
  intro t ht
  rcases s.constant_eq_ok_iff.1 ht with
    ⟨b, rfl, rfl⟩ | ⟨n, x, rfl, hx, rfl⟩ | ⟨x, rfl, hx, rfl⟩ | ⟨u, rfl, rfl⟩
  · exact ⟨.truth c b, .truth b⟩
  · obtain ⟨hf, rfl⟩ := floatOfInt?_eq_some_iff.1 hx
    have hn : decide ((n : Int) < 0) = false := by simp
    rw [hn, Int.natAbs_natCast] at hf ⊢
    exact ⟨.whole c n hf, .number _ hf⟩
  · exact ⟨.double c x hx, .number x hx⟩
  · exact ⟨.text c u, .text u⟩

theorem isTyped_name {c : Nat} {n : String} : s.IsTyped (.name c n) := by
  intro t ht
  rcases s.name_eq_ok_iff.1 ht with ⟨b, hb, rfl⟩ | ⟨hb, k, hk, rfl⟩
  · have hn : n ∈ truthNames := by
      by_contra hn
      rw [truthName?_eq_none_iff.2 hn] at hb
      exact absurd hb (by simp)
    exact ⟨.truthName c n hn, .truth b⟩
  · exact ⟨.reference c n k (truthName?_eq_none_iff.1 hb) hk, .reference n k hk⟩

theorem isTyped_unary {c : Nat} {op : PrefixOperator} {e : Surface} (he : s.IsTyped e) :
    s.IsTyped (.unary c op e) := by
  intro t ht
  obtain ⟨u, hu, ht⟩ := bind_eq_ok_iff.1 ht
  obtain ⟨hek, huk⟩ := he u hu
  rcases s.unary_eq_ok_iff.1 ht with ⟨rfl, hk, rfl⟩ | ⟨rfl, hk, rfl⟩ | ⟨rfl, hk, rfl⟩
  · rw [hk] at hek
    exact ⟨.sign c _ e (by simp) hek, .sign _ u (by simp) huk hk⟩
  · rw [hk] at hek
    exact ⟨.sign c _ e (by simp) hek, .sign _ u (by simp) huk hk⟩
  · rw [hk] at hek
    exact ⟨.not c e hek, .not u huk hk⟩

theorem isTyped_binary {c : Nat} {op : InfixOperator} {l r : Surface} (hl : s.IsTyped l)
    (hr : s.IsTyped r) : s.IsTyped (.binary c op l r) := by
  intro t ht
  unfold lower at ht
  cases ho : arithmetic? op with
  | none => simp [ho, refuse] at ht
  | some a =>
      rw [ho] at ht
      obtain ⟨u, hu, ht⟩ := bind_eq_ok_iff.1 ht
      obtain ⟨w, hw, ht⟩ := bind_eq_ok_iff.1 ht
      obtain ⟨hlk, hul⟩ := hl u hu
      obtain ⟨hrk, hwr⟩ := hr w hw
      rcases s.binary_eq_ok_iff.1 ht with ⟨rfl, huk, hwk, rfl⟩ | ⟨huk, hwk, rfl⟩
      · rw [arithmetic?_eq_add_iff] at ho
        subst ho
        rw [huk] at hlk
        rw [hwk] at hrk
        exact ⟨.concatenation c l r hlk hrk, .concatenation u w hul hwr huk hwk⟩
      · rw [huk] at hlk
        rw [hwk] at hrk
        exact ⟨.arithmetic c op l r (arithmetic?_isSome_iff.2 ⟨a, ho⟩) hlk hrk,
          .arithmetic a u w hul hwr huk hwk⟩

theorem isTyped_connective {c : Nat} {b : Bool} {es : List Surface}
    (hes : ∀ e ∈ es, s.IsTyped e) : s.IsTyped (.connective c b es) := by
  intro t ht
  obtain ⟨us, hus, ht⟩ := bind_eq_ok_iff.1 ht
  have hall := s.lowerAll_eq_ok_iff.1 hus
  obtain ⟨hk, first, rest, rfl, rfl⟩ := s.connective_eq_ok_iff.1 ht
  have hes' : ∀ e ∈ es, e.HasKind s.schema s.registry .boolean := by
    intro e he
    obtain ⟨u, hu, hue⟩ := exists_mem_of_forall₂ hall.flip he
    rw [← hk u hu]
    exact (hes e he u hue).1
  have hus' : ∀ u ∈ first :: rest, u.WellKinded s.schema s.registry ∧ u.kind = .boolean := by
    intro u hu
    obtain ⟨e, he, heu⟩ := exists_mem_of_forall₂ hall hu
    exact ⟨(hes e he u heu).2, hk u hu⟩
  have hne : es ≠ [] := by
    rintro rfl
    exact absurd hall.length_eq (by simp)
  have ho : connector b = .and ∨ connector b = .or := by cases b <;> simp [connector]
  rw [kind_joined (hk first (by simp))]
  exact ⟨.connective c b es hne hes', s.wellKinded_joined ho hus'⟩

theorem isTyped_comparison {c : Nat} {l : Surface} {ls : List (Relation × Surface)}
    (hl : s.IsTyped l) (hls : ∀ link ∈ ls, s.IsTyped link.2) :
    s.IsTyped (.comparison c l ls) := by
  intro t ht
  obtain ⟨u, hu, hrest⟩ := bind_eq_ok_iff.1 ht
  obtain ⟨rs, hrs, hcmp⟩ := bind_eq_ok_iff.1 hrest
  have hall := s.lowerLinks_eq_ok_iff.1 hrs
  obtain ⟨hlk, huw⟩ := hl u hu
  obtain ⟨first, others, hus, rfl⟩ := s.comparison_eq_ok_iff.1 hcmp
  have hrel := s.exists_links_iff.1 ⟨_, hus⟩
  have hboth : ∀ link ∈ ls,
      link.2.HasKind s.schema s.registry u.kind ∧ link.1.Relates u.kind := by
    intro link hlink
    obtain ⟨r, hr, hreq, hlow⟩ := exists_mem_of_forall₂ hall.flip hlink
    obtain ⟨hk, hrr⟩ := hrel r hr
    rw [hreq, ← hk]
    exact ⟨(hls link hlink r.2 hlow).1, hk ▸ hrr⟩
  have hrs' : ∀ r ∈ rs, r.2.WellKinded s.schema s.registry := by
    intro r hr
    obtain ⟨link, hlink, -, hlow⟩ := exists_mem_of_forall₂ hall hr
    exact (hls link hlink r.2 hlow).2
  have hne : ls ≠ [] := by
    rintro rfl
    exact s.ne_nil_of_comparison hcmp (List.forall₂_nil_left_iff.1 hall)
  have hlinks := s.wellKinded_links hus huw hrs'
  rw [kind_joined (hlinks first (by simp)).2]
  exact ⟨.comparison c l ls u.kind hne hlk (fun link h => (hboth link h).1)
    (fun link h => (hboth link h).2), s.wellKinded_joined (.inl rfl) hlinks⟩

theorem isTyped_call {c : Nat} {target : Surface} {args named : List Surface}
    (hargs : ∀ e ∈ args, s.IsTyped e) : s.IsTyped (.call c target args named) := by
  intro t ht
  obtain ⟨f, hf, hrest⟩ := bind_eq_ok_iff.1 ht
  obtain ⟨ts, hts, hcall⟩ := bind_eq_ok_iff.1 hrest
  have hall := s.lowerAll_eq_ok_iff.1 hts
  obtain ⟨c', n, rfl⟩ := s.callee_eq_ok hf
  obtain ⟨rfl, -, hfind, hmin, hmax⟩ := s.callee_name_eq_ok_iff.1 hf
  obtain ⟨hk, rfl⟩ := s.call_eq_ok_iff.1 hcall
  obtain rfl := Registry.name_of_find? hfind
  have hmem := Registry.find?_eq_some_iff.1 hfind
  have hkinds : ∀ p ∈ args.zip f.params, p.1.HasKind s.schema s.registry p.2 := by
    refine forall_zip_of_forall₂ (P := fun u k => u.kind = k) hall.flip
      (fun u _ e he k hlow huk => ?_) hk
    rw [← huk]
    exact (hargs e he u hlow).1
  have hts' : ∀ u ∈ ts, u.WellKinded s.schema s.registry := by
    intro u hu
    obtain ⟨e, he, heu⟩ := exists_mem_of_forall₂ hall hu
    exact (hargs e he u heu).2
  have hlen := hall.length_eq
  exact ⟨.call c c' f args hmem hmin hmax hkinds,
    .call f ts hmem (hlen ▸ hmin) (hlen ▸ hmax) hts' hk⟩

theorem isTyped (e : Surface) : s.IsTyped e := by
  induction e with
  | constant c v => exact isTyped_constant
  | name c n => exact isTyped_name
  | unary c op e ih => exact isTyped_unary ih
  | binary c op l r ihl ihr => exact isTyped_binary ihl ihr
  | connective c b es ih => exact isTyped_connective ih
  | comparison c l ls ihl ihs => exact isTyped_comparison ihl ihs
  | call c target args named _ iha _ => exact isTyped_call iha
  | other c k parts _ =>
      intro t ht
      simp [lower, refuse] at ht

/-! ### Completeness -/

variable (s)

def LowersTo (e : Surface) (k : Kind) : Prop := ∃ t, s.lower e = .ok t ∧ t.kind = k

variable {s}

theorem kind_eq_of_lowersTo {e : Surface} {k : Kind} (h : s.LowersTo e k) {t : Tree}
    (ht : s.lower e = .ok t) : t.kind = k := by
  obtain ⟨u, hu, hk⟩ := h
  rw [ht] at hu
  rw [Except.ok.inj hu, hk]

theorem lowersTo_connective {c : Nat} {b : Bool} {es : List Surface} (hne : es ≠ [])
    (h : ∀ e ∈ es, s.LowersTo e .boolean) : s.LowersTo (.connective c b es) .boolean := by
  obtain ⟨ts, hts⟩ := s.exists_lowerAll (fun e he => (h e he).imp (fun _ ht => ht.1))
  have hall := s.lowerAll_eq_ok_iff.1 hts
  have hk : ∀ t ∈ ts, t.kind = .boolean := by
    intro t ht
    obtain ⟨e, he, het⟩ := exists_mem_of_forall₂ hall ht
    exact kind_eq_of_lowersTo (h e he) het
  cases ts with
  | nil => exact absurd (List.forall₂_nil_right_iff.1 hall) hne
  | cons first rest =>
      refine ⟨joined (connector b) first rest, ?_, kind_joined (hk first (by simp))⟩
      exact bind_eq_ok_iff.2 ⟨_, hts, s.connective_eq_ok_iff.2 ⟨hk, first, rest, rfl, rfl⟩⟩

theorem lowersTo_comparison {c : Nat} {l : Surface} {ls : List (Relation × Surface)} {k : Kind}
    (hne : ls ≠ []) (hl : s.LowersTo l k) (hls : ∀ link ∈ ls, s.LowersTo link.2 k)
    (hrel : ∀ link ∈ ls, link.1.Relates k) : s.LowersTo (.comparison c l ls) .boolean := by
  obtain ⟨u, hu, huk⟩ := hl
  obtain ⟨rs, hrs⟩ := s.exists_lowerLinks (fun link h => (hls link h).imp (fun _ ht => ht.1))
  have hall := s.lowerLinks_eq_ok_iff.1 hrs
  have hk : ∀ r ∈ rs, r.2.kind = u.kind ∧ r.1.Relates u.kind := by
    intro r hr
    obtain ⟨link, hlink, heq, hlow⟩ := exists_mem_of_forall₂ hall hr
    rw [huk, ← heq]
    exact ⟨kind_eq_of_lowersTo (hls link hlink) hlow, hrel link hlink⟩
  have hrne : rs ≠ [] := by
    rintro rfl
    exact hne (List.forall₂_nil_right_iff.1 hall)
  obtain ⟨t, ht, htk⟩ := @exists_comparison s c u rs hrne hk
  exact ⟨t, bind_eq_ok_iff.2 ⟨u, hu, bind_eq_ok_iff.2 ⟨rs, hrs, ht⟩⟩, htk⟩

theorem lowersTo_call {c c' : Nat} {f : Function} {args : List Surface}
    (hf : f ∈ s.registry.functions) (hmin : f.required ≤ args.length)
    (hmax : args.length ≤ f.params.length) (hstar : ∀ e ∈ args, e.isStarred = false)
    (h : ∀ p ∈ args.zip f.params, s.LowersTo p.1 p.2) :
    s.LowersTo (.call c (.name c' f.name) args []) f.returns := by
  have hlow : ∀ e ∈ args, ∃ t, s.lower e = .ok t := by
    intro e he
    obtain ⟨k, hk⟩ := exists_mem_zip hmax he
    exact (h (e, k) hk).imp (fun _ ht => ht.1)
  obtain ⟨ts, hts⟩ := s.exists_lowerAll hlow
  have hall := s.lowerAll_eq_ok_iff.1 hts
  have hk : ∀ p ∈ ts.zip f.params, p.1.kind = p.2 :=
    forall_zip_of_forall₂ (Q := fun t k => t.kind = k) hall
      (fun _ _ _ _ _ het he => kind_eq_of_lowersTo he het) h
  have hfind := Registry.find?_eq_some_iff.2 hf
  exact ⟨.call f.name ts f.returns,
    bind_eq_ok_iff.2 ⟨f, s.callee_name_eq_ok_iff.2 ⟨rfl, hstar, hfind, hmin, hmax⟩,
      bind_eq_ok_iff.2 ⟨ts, hts, s.call_eq_ok_iff.2 ⟨hk, rfl⟩⟩⟩, rfl⟩

theorem lowersTo_of_hasKind {e : Surface} {k : Kind} (h : e.HasKind s.schema s.registry k) :
    s.LowersTo e k := by
  induction h with
  | truth c b => exact ⟨_, rfl, rfl⟩
  | text c t => exact ⟨_, rfl, rfl⟩
  | whole c n hn =>
      have hpos : decide ((n : Int) < 0) = false := by simp
      have hx : floatOfInt? n = some (Binary.nearest false n 1) :=
        floatOfInt?_eq_some_iff.2 ⟨hn, by rw [hpos, Int.natAbs_natCast]⟩
      exact ⟨_, s.constant_eq_ok_iff.2 (.inr (.inl ⟨n, _, rfl, hx, rfl⟩)), rfl⟩
  | double c x hx =>
      exact ⟨_, s.constant_eq_ok_iff.2 (.inr (.inr (.inl ⟨x, rfl, hx, rfl⟩))), rfl⟩
  | truthName c n hn =>
      cases hb : truthName? n with
      | none => exact absurd hn (truthName?_eq_none_iff.1 hb)
      | some b => exact ⟨_, s.name_eq_ok_iff.2 (.inl ⟨b, hb, rfl⟩), rfl⟩
  | reference c n k hn hk =>
      exact ⟨_, s.name_eq_ok_iff.2 (.inr ⟨truthName?_eq_none_iff.2 hn, k, hk, rfl⟩), rfl⟩
  | sign c op e ho _ ih =>
      obtain ⟨t, ht, hk⟩ := ih
      rcases ho with rfl | rfl
      · exact ⟨_, bind_eq_ok_iff.2 ⟨t, ht, s.unary_eq_ok_iff.2 (.inl ⟨rfl, hk, rfl⟩)⟩, rfl⟩
      · exact ⟨_, bind_eq_ok_iff.2 ⟨t, ht, s.unary_eq_ok_iff.2 (.inr (.inl ⟨rfl, hk, rfl⟩))⟩, rfl⟩
  | not c e _ ih =>
      obtain ⟨t, ht, hk⟩ := ih
      exact ⟨_, bind_eq_ok_iff.2 ⟨t, ht, s.unary_eq_ok_iff.2 (.inr (.inr ⟨rfl, hk, rfl⟩))⟩, rfl⟩
  | concatenation c l r _ _ ihl ihr =>
      obtain ⟨t, ht, htk⟩ := ihl
      obtain ⟨u, hu, huk⟩ := ihr
      exact ⟨_, bind_eq_ok_iff.2 ⟨t, ht, bind_eq_ok_iff.2
        ⟨u, hu, s.binary_eq_ok_iff.2 (.inl ⟨rfl, htk, huk, rfl⟩)⟩⟩, rfl⟩
  | arithmetic c op l r ho _ _ ihl ihr =>
      obtain ⟨a, ha⟩ := arithmetic?_isSome_iff.1 ho
      obtain ⟨t, ht, htk⟩ := ihl
      obtain ⟨u, hu, huk⟩ := ihr
      refine ⟨.binary (.arithmetic a) t u .number, ?_, rfl⟩
      unfold lower
      rw [ha]
      exact bind_eq_ok_iff.2 ⟨t, ht, bind_eq_ok_iff.2
        ⟨u, hu, s.binary_eq_ok_iff.2 (.inr ⟨htk, huk, rfl⟩)⟩⟩
  | connective c b es hne _ ih => exact lowersTo_connective hne ih
  | comparison c l ls k hne _ _ hrel ihl ihs => exact lowersTo_comparison hne ihl ihs hrel
  | call c c' f args hf hmin hmax h ih =>
      have hstar : ∀ e ∈ args, e.isStarred = false := by
        intro e he
        obtain ⟨k, hk⟩ := exists_mem_zip hmax he
        cases h (e, k) hk <;> rfl
      exact lowersTo_call hf hmin hmax hstar ih

/-- Lowering accepts exactly the expressions that have a kind. The tree then has this kind and is
annotated as its parts and the registry determine; every other expression is refused as malformed.
-/
theorem lower_accepts_iff_hasKind (s : Scope) (e : Surface) :
    (∀ k, (∃ t, s.lower e = .ok t ∧ t.kind = k) ↔ e.HasKind s.schema s.registry k) ∧
    (∀ t, s.lower e = .ok t → t.WellKinded s.schema s.registry) ∧
    ((∀ k, ¬ e.HasKind s.schema s.registry k) →
      ∃ detail column, s.lower e = .error (.malformed s.source detail column)) := by
  have hkind : ∀ k, (∃ t, s.lower e = .ok t ∧ t.kind = k) ↔ e.HasKind s.schema s.registry k := by
    refine fun k => ⟨?_, lowersTo_of_hasKind⟩
    rintro ⟨t, ht, rfl⟩
    exact (isTyped e t ht).1
  refine ⟨hkind, fun t ht => (isTyped e t ht).2, fun hno => ?_⟩
  have href := s.lower_refuses e.names_true
  cases hlow : s.lower e with
  | ok t => exact absurd ((hkind t.kind).1 ⟨t, hlow, rfl⟩) (hno t.kind)
  | error f =>
      rw [hlow] at href
      obtain ⟨detail, column, rfl, -⟩ := href
      exact ⟨detail, column, rfl⟩

end Scope

end Appraisal.Formula
