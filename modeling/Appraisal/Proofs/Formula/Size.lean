import Mathlib.Algebra.Group.Nat.Defs
import Appraisal.Proofs.Formula.Lowering
import Appraisal.Proofs.Formula.Parsing

/-!
# Sizes of expressions and of their trees

The size of an expression is checked before its tree is built. It never exceeds the number of nodes of
the tree, so the check refuses nothing that the count of the nodes would let pass. In the other
direction the operands in the middle of a chain of comparisons stand in two links each: the tree can
be larger than the expression by a factor that doubles with every chain inside the middle of another.
-/

namespace Appraisal.Formula

open Outcome Scope

/-! ### Sizes -/

theorem Surface.linkSizes_cons (l : Relation × Surface) (ls : List (Relation × Surface)) :
    linkSizes (l :: ls) = l.2.size + linkSizes ls := by
  obtain ⟨relation, e⟩ := l
  rfl

theorem Tree.count_joined (op : BinaryOperator) (first : Tree) (rest : List Tree) :
    (joined op first rest).count = counts (first :: rest) + rest.length := by
  unfold joined
  induction rest generalizing first with
  | nil => rfl
  | cons t ts ih =>
      rw [List.foldl_cons, ih]
      simp only [counts, count, List.length_cons]
      omega

def linkCounts (rest : List (Relation × Tree)) : Nat := Tree.counts (rest.map Prod.snd)

theorem linkCounts_cons (r : Relation × Tree) (rest : List (Relation × Tree)) :
    linkCounts (r :: rest) = r.2.count + linkCounts rest := rfl

/-! ### The nodes of a lowered tree -/

namespace Scope

variable {s : Scope} {column : Nat} {t : Tree}

abbrev Lowers (s : Scope) (e : Surface) (t : Tree) : Prop := s.lower e = .ok t

abbrev LowersLink (s : Scope) (l : Relation × Surface) (r : Relation × Tree) : Prop :=
  l.1 = r.1 ∧ s.lower l.2 = .ok r.2

theorem count_of_constant {v : Constant} (h : s.lower (.constant column v) = .ok t) :
    t.count = 1 := by
  rcases s.constant_eq_ok_iff.1 h with
    ⟨b, -, rfl⟩ | ⟨n, x, -, -, rfl⟩ | ⟨x, -, -, rfl⟩ | ⟨u, -, rfl⟩ <;> rfl

theorem count_of_name {n : String} (h : s.lower (.name column n) = .ok t) : t.count = 1 := by
  rcases s.name_eq_ok_iff.1 h with ⟨b, -, rfl⟩ | ⟨-, k, -, rfl⟩ <;> rfl

theorem count_of_unary {op : PrefixOperator} {e : Surface}
    (h : s.lower (.unary column op e) = .ok t) :
    ∃ u, s.Lowers e u ∧ t.count = 1 + u.count := by
  obtain ⟨u, hu, h⟩ := bind_eq_ok_iff.1 h
  refine ⟨u, hu, ?_⟩
  rcases s.unary_eq_ok_iff.1 h with ⟨-, -, rfl⟩ | ⟨-, -, rfl⟩ | ⟨-, -, rfl⟩ <;> rfl

theorem count_of_binary {op : InfixOperator} {l r : Surface}
    (h : s.lower (.binary column op l r) = .ok t) :
    ∃ u w, s.Lowers l u ∧ s.Lowers r w ∧ t.count = 1 + u.count + w.count := by
  unfold lower at h
  split at h
  · simp [refuse] at h
  · obtain ⟨u, hu, h⟩ := bind_eq_ok_iff.1 h
    obtain ⟨w, hw, h⟩ := bind_eq_ok_iff.1 h
    refine ⟨u, w, hu, hw, ?_⟩
    rcases s.binary_eq_ok_iff.1 h with ⟨-, -, -, rfl⟩ | ⟨-, -, rfl⟩ <;> rfl

theorem count_of_connective {b : Bool} {es : List Surface}
    (h : s.lower (.connective column b es) = .ok t) :
    ∃ ts, List.Forall₂ s.Lowers es ts ∧ t.count + 1 = Tree.counts ts + ts.length := by
  obtain ⟨ts, hts, h⟩ := bind_eq_ok_iff.1 h
  obtain ⟨-, first, rest, rfl, rfl⟩ := s.connective_eq_ok_iff.1 h
  exact ⟨_, s.lowerAll_eq_ok_iff.1 hts, by rw [Tree.count_joined, List.length_cons]; rfl⟩

/-- A chain has a node for each link and one for each place where two links are joined. -/
theorem count_of_comparison {l : Surface} {ls : List (Relation × Surface)}
    (h : s.lower (.comparison column l ls) = .ok t) :
    ∃ u rs us, s.Lowers l u ∧ List.Forall₂ s.LowersLink ls rs ∧ s.links column u rs = .ok us ∧
      us ≠ [] ∧ t.count + 1 = Tree.counts us + us.length := by
  obtain ⟨u, hu, h⟩ := bind_eq_ok_iff.1 h
  obtain ⟨rs, hrs, h⟩ := bind_eq_ok_iff.1 h
  obtain ⟨first, others, hus, rfl⟩ := s.comparison_eq_ok_iff.1 h
  exact ⟨u, rs, _, hu, s.lowerLinks_eq_ok_iff.1 hrs, hus, List.cons_ne_nil _ _,
    by rw [Tree.count_joined, List.length_cons]; rfl⟩

theorem count_of_call {f : Surface} {args named : List Surface}
    (h : s.lower (.call column f args named) = .ok t) :
    ∃ ts, List.Forall₂ s.Lowers args ts ∧ t.count = 1 + Tree.counts ts ∧ f.inner = 0 ∧
      named = [] := by
  obtain ⟨g, hg, hrest⟩ := bind_eq_ok_iff.1 h
  obtain ⟨ts, hts, hcall⟩ := bind_eq_ok_iff.1 hrest
  obtain ⟨c, n, rfl⟩ := s.callee_eq_ok hg
  obtain ⟨hnamed, -⟩ := s.callee_name_eq_ok_iff.1 hg
  obtain ⟨-, rfl⟩ := s.call_eq_ok_iff.1 hcall
  exact ⟨ts, s.lowerAll_eq_ok_iff.1 hts, rfl, rfl, hnamed⟩

theorem count_of_link {relation : Relation} {l r u : Tree}
    (h : s.link column l relation r = .ok u) : u.count = 1 + l.count + r.count := by
  obtain ⟨op, -, -, -, rfl⟩ := s.link_eq_ok_iff.1 h
  rfl

/-! ### Trees are not smaller than their expressions -/

/-- The links of a chain hold every operand. -/
theorem le_counts_links {l : Tree} {rest : List (Relation × Tree)} {us : List Tree}
    (h : s.links column l rest = .ok us) (hne : us ≠ []) :
    l.count + linkCounts rest + 1 ≤ Tree.counts us := by
  induction rest generalizing l us with
  | nil => exact absurd (Except.ok.inj h).symm hne
  | cons link rest ih =>
      obtain ⟨relation, r⟩ := link
      obtain ⟨u, others, hu, ho, rfl⟩ := s.links_cons_eq_ok_iff.1 h
      rw [Tree.counts, count_of_link hu, linkCounts_cons]
      cases rest with
      | nil =>
          simp only [linkCounts, List.map_nil, Tree.counts]
          omega
      | cons link' rest =>
          obtain ⟨u', others', -, -, rfl⟩ := s.links_cons_eq_ok_iff.1 ho
          have hothers := ih ho (List.cons_ne_nil _ _)
          simp only
          omega

theorem sizes_le_counts {es : List Surface} {ts : List Tree}
    (h : List.Forall₂ (fun e t => e.size ≤ t.count) es ts) : Surface.sizes es ≤ Tree.counts ts := by
  induction h with
  | nil => exact Nat.le_refl 0
  | cons he _ ih => exact Nat.add_le_add he ih

theorem linkSizes_le_linkCounts {ls : List (Relation × Surface)} {rs : List (Relation × Tree)}
    (h : List.Forall₂ (fun l r => l.2.size ≤ r.2.count) ls rs) :
    Surface.linkSizes ls ≤ linkCounts rs := by
  induction h with
  | nil => exact Nat.le_refl 0
  | cons hl _ ih =>
      rw [Surface.linkSizes_cons, linkCounts_cons]
      exact Nat.add_le_add hl ih

/-- The size of an expression is at most the number of nodes of its tree. -/
theorem size_le_count {e : Surface} (he : e.WellJoined) (h : s.lower e = .ok t) :
    e.size ≤ t.count := by
  induction he generalizing t with
  | constant c v => exact Nat.le_of_eq (count_of_constant h).symm
  | name c n => exact Nat.le_of_eq (count_of_name h).symm
  | unary c op e _ ih =>
      obtain ⟨u, hu, ht⟩ := count_of_unary h
      have hsize := ih hu
      simp only [Surface.size, Surface.inner] at hsize ⊢
      omega
  | binary c op l r _ _ ihl ihr =>
      obtain ⟨u, w, hu, hw, ht⟩ := count_of_binary h
      have hleft := ihl hu
      have hright := ihr hw
      simp only [Surface.size, Surface.inner] at hleft hright ⊢
      omega
  | connective c b es hlength _ ih =>
      obtain ⟨ts, hts, ht⟩ := count_of_connective h
      have hsizes := sizes_le_counts (((List.forall₂_and_left _ _).2 ⟨ih, hts⟩).imp
        (fun _ _ he => he.1 he.2))
      rw [hts.length_eq] at hlength
      simp only [Surface.size, Surface.inner]
      omega
  | comparison c l ls _ _ ihl ihs =>
      obtain ⟨u, rs, us, hu, hrs, hus, hne, ht⟩ := count_of_comparison h
      have hleft := ihl hu
      have hlinks := linkSizes_le_linkCounts (((List.forall₂_and_left _ _).2 ⟨ihs, hrs⟩).imp
        (fun _ _ hl => hl.1 hl.2.2))
      have hcounts := le_counts_links hus hne
      have hpos := List.length_pos_of_ne_nil hne
      simp only [Surface.size, Surface.inner] at hleft hlinks ⊢
      omega
  | call c f args named _ ih =>
      obtain ⟨ts, hts, ht, hf, rfl⟩ := count_of_call h
      have hsizes := sizes_le_counts (((List.forall₂_and_left _ _).2 ⟨ih, hts⟩).imp
        (fun _ _ he => he.1 he.2))
      simp only [Surface.size, Surface.inner, Surface.sizes]
      omega
  | other c k parts => simp [lower, refuse] at h

end Scope

/-! ### Trees are larger by what chains repeat -/

mutual

/-- How many chains of comparisons stand one inside the middle of another, a chain by itself
included. The middle operands of a chain are all but the first and the last. -/
def Surface.chainDepth : Surface → Nat
  | .constant .. => 0
  | .name .. => 0
  | .unary _ _ e => e.chainDepth
  | .binary _ _ l r => max l.chainDepth r.chainDepth
  | .connective _ _ es => chainDepths es
  | .comparison _ l links => max l.chainDepth (linkChainDepths links)
  | .call _ _ args _ => chainDepths args
  | .other .. => 0

def chainDepths : List Surface → Nat
  | [] => 0
  | e :: es => max e.chainDepth (chainDepths es)

def linkChainDepths : List (Relation × Surface) → Nat
  | [] => 0
  | [l] => linkChainDepth l
  | l :: ls => max (linkChainDepth l + 1) (linkChainDepths ls)

def linkChainDepth : Relation × Surface → Nat
  | (_, e) => e.chainDepth

end

theorem chainDepth_le_of_mem {e : Surface} {es : List Surface} (h : e ∈ es) :
    e.chainDepth ≤ chainDepths es := by
  induction es with
  | nil => cases h
  | cons e' es ih =>
      rw [chainDepths]
      rcases List.mem_cons.1 h with rfl | h
      · exact Nat.le_max_left _ _
      · exact Nat.le_trans (ih h) (Nat.le_max_right _ _)

namespace Scope

variable {s : Scope} {column : Nat} {t : Tree}

/-- The tree of an expression has less than so many times its size in nodes. -/
def Within (factor : Nat) (e : Surface) (t : Tree) : Prop := t.count + 1 ≤ factor * e.size

theorem counts_within {factor : Nat} {es : List Surface} {ts : List Tree}
    (hes : ∀ e ∈ es, ∀ t, s.Lowers e t → Within factor e t) (h : List.Forall₂ s.Lowers es ts) :
    Tree.counts ts + ts.length ≤ factor * Surface.sizes es := by
  induction h with
  | nil => exact Nat.zero_le _
  | @cons e t es ts he _ ih =>
      have hfirst : t.count + 1 ≤ factor * e.size := hes e List.mem_cons_self t he
      have hrest := ih (fun e' he' => hes e' (List.mem_cons_of_mem e he'))
      have hsizes : Surface.sizes (e :: es) = e.size + Surface.sizes es := rfl
      rw [hsizes, Nat.mul_add, Tree.counts, List.length_cons]
      omega

/-- The node of an expression makes up for its own node in the tree and for one more. -/
theorem Within.node {factor n m : Nat} (htwo : 2 ≤ factor) (h : n ≤ factor * m) :
    n + 2 ≤ factor * (m + 1) := by
  rw [Nat.mul_succ]
  exact Nat.add_le_add h htwo

theorem two_le_two_pow (d : Nat) : 2 ≤ 2 ^ (d + 1) := Nat.le_self_pow (Nat.succ_ne_zero d) 2

/-- The links of a chain hold the first operand and the last one once and those between them
twice. -/
theorem counts_links_le {d : Nat} {l : Tree} {rest : List (Relation × Tree)}
    {ls : List (Relation × Surface)} {us : List Tree} (h : s.links column l rest = .ok us)
    (hls : List.Forall₂ (fun k r => ∀ d, k.2.chainDepth ≤ d → Within (2 ^ (d + 1)) k.2 r.2) ls rest)
    (hd : linkChainDepths ls ≤ d) :
    Tree.counts us + us.length ≤ l.count + 1 + 2 ^ (d + 1) * Surface.linkSizes ls := by
  induction hls generalizing l us with
  | nil =>
      obtain rfl : [] = us := Except.ok.inj h
      exact Nat.zero_le _
  | @cons k r ls rest hk hls ih =>
      obtain ⟨relation, e⟩ := k
      obtain ⟨u, others, hu, ho, rfl⟩ := s.links_cons_eq_ok_iff.1 h
      rw [Tree.counts, count_of_link hu, List.length_cons, Surface.linkSizes_cons, Nat.mul_add]
      cases hls with
      | nil =>
          obtain rfl : [] = others := Except.ok.inj ho
          have he : r.2.count + 1 ≤ 2 ^ (d + 1) * e.size := hk d hd
          simp only [Tree.counts, List.length_nil]
          omega
      | @cons k' r' ls rest hk' hls =>
          have hmax : max (e.chainDepth + 1) (linkChainDepths (k' :: ls)) ≤ d := hd
          obtain ⟨n, rfl⟩ : ∃ n, d = n + 1 := ⟨d - 1, by omega⟩
          have he : r.2.count + 1 ≤ 2 ^ (n + 1) * e.size := hk n (by simp only; omega)
          have htwice : 2 ^ (n + 1 + 1) * e.size = 2 * (2 ^ (n + 1) * e.size) := by
            rw [Nat.pow_succ, Nat.mul_comm (2 ^ (n + 1)) 2, Nat.mul_assoc]
          have hothers := ih ho (by omega)
          simp only at he htwice ⊢
          omega

/-- Every chain in the middle of another doubles what the tree may have in nodes. -/
theorem within_of_lower {e : Surface} (h : s.lower e = .ok t) {d : Nat} (hd : e.chainDepth ≤ d) :
    Within (2 ^ (d + 1)) e t := by
  induction e generalizing t d with
  | constant c v =>
      refine Nat.le_trans (Nat.le_of_eq ?_) (Within.node (two_le_two_pow d) (Nat.zero_le _))
      rw [count_of_constant h]
  | name c n =>
      refine Nat.le_trans (Nat.le_of_eq ?_) (Within.node (two_le_two_pow d) (Nat.zero_le _))
      rw [count_of_name h]
  | unary c op e ih =>
      obtain ⟨u, hu, ht⟩ := count_of_unary h
      have hnode := Within.node (two_le_two_pow d) (ih hu hd)
      simp only [Within, Surface.size, Surface.inner] at hnode ⊢
      omega
  | binary c op l r ihl ihr =>
      obtain ⟨u, w, hu, hw, ht⟩ := count_of_binary h
      have hmax : max l.chainDepth r.chainDepth ≤ d := hd
      have hl : u.count + 1 ≤ 2 ^ (d + 1) * l.size := ihl hu (by omega)
      have hr : w.count + 1 ≤ 2 ^ (d + 1) * r.size := ihr hw (by omega)
      have hnode := Within.node (two_le_two_pow d)
        (Nat.le_trans (Nat.add_le_add hl hr) (Nat.le_of_eq (Nat.mul_add _ _ _).symm))
      simp only [Within, Surface.size, Surface.inner] at hnode ⊢
      omega
  | connective c b es ih =>
      obtain ⟨ts, hts, ht⟩ := count_of_connective h
      have hsizes := counts_within (fun e he t ht =>
        ih e he ht (Nat.le_trans (chainDepth_le_of_mem he) hd)) hts
      have hnode := Within.node (two_le_two_pow d) hsizes
      simp only [Within, Surface.size, Surface.inner] at hnode ⊢
      omega
  | comparison c l ls ihl ihs =>
      obtain ⟨u, rs, us, hu, hrs, hus, -, ht⟩ := count_of_comparison h
      have hmax : max l.chainDepth (linkChainDepths ls) ≤ d := hd
      have hl : u.count + 1 ≤ 2 ^ (d + 1) * l.size := ihl hu (by omega)
      have hlinks := counts_links_le hus (((List.forall₂_and_left _ _).2 ⟨ihs, hrs⟩).imp
        (fun _ _ hk _ => hk.1 hk.2.2)) (Nat.le_trans (Nat.le_max_right _ _) hmax)
      have hsum : u.count + 1 + 2 ^ (d + 1) * Surface.linkSizes ls ≤
          2 ^ (d + 1) * (l.size + Surface.linkSizes ls) := by
        rw [Nat.mul_add]
        exact Nat.add_le_add_right hl _
      have hnode := Within.node (two_le_two_pow d) (Nat.le_trans hlinks hsum)
      simp only [Within, Surface.size, Surface.inner] at hnode ⊢
      omega
  | call c f args named ihf iha ihn =>
      obtain ⟨ts, hts, ht, hf, rfl⟩ := count_of_call h
      have hsizes := counts_within (fun e he t ht =>
        iha e he ht (Nat.le_trans (chainDepth_le_of_mem he) hd)) hts
      have hnode := Within.node (two_le_two_pow d) hsizes
      simp only [Within, Surface.size, Surface.inner, Surface.sizes, hf, Nat.zero_add,
        Nat.add_zero] at hnode ⊢
      omega
  | other c k parts ih => simp [lower, refuse] at h

end Scope

end Appraisal.Formula
