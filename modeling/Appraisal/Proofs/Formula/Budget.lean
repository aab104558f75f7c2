import Appraisal.Proofs.Formula.Size
import Appraisal.Proofs.Formula.Typing

/-!
# The budget of nodes

A formula is refused by the size of its expression before its tree is built, and by the number of
nodes of the tree afterwards. The first check changes nothing about which formulas are accepted. It
bounds the work of the second one only up to a factor that doubles with each chain of comparisons in
the middle of another one, and no smaller factor will do.
-/

namespace Appraisal.Formula

open Outcome Scope

/-! ### Accepted expressions are not pruned -/

namespace Scope

variable {s : Scope} {t : Tree} {n : Nat}

theorem lower_tooDeep_ne_ok : s.lower Surface.tooDeep ≠ .ok t := by
  simp [Surface.tooDeep, lower, refuse]

theorem allPruned_eq_of_lowers {es : List Surface} {ts : List Tree}
    (hes : ∀ e ∈ es, ∀ t, s.Lowers (e.pruned n) t → e.pruned n = e)
    (h : List.Forall₂ s.Lowers (Surface.allPruned n es) ts) : Surface.allPruned n es = es := by
  induction es generalizing ts with
  | nil => rfl
  | cons e es ih =>
      rw [Surface.allPruned] at h ⊢
      cases h with
      | cons he hrest =>
          rw [hes e List.mem_cons_self _ he,
            ih (fun e' he' => hes e' (List.mem_cons_of_mem e he')) hrest]

theorem linksPruned_eq_of_lowers {ls : List (Relation × Surface)} {rs : List (Relation × Tree)}
    (hls : ∀ l ∈ ls, ∀ t, s.Lowers (l.2.pruned n) t → l.2.pruned n = l.2)
    (h : List.Forall₂ s.LowersLink (Surface.linksPruned n ls) rs) :
    Surface.linksPruned n ls = ls := by
  induction ls generalizing rs with
  | nil => rfl
  | cons l ls ih =>
      obtain ⟨relation, e⟩ := l
      rw [Surface.linksPruned, Surface.linkPruned] at h ⊢
      cases h with
      | cons hl hrest =>
          rw [hls (relation, e) List.mem_cons_self _ hl.2,
            ih (fun l' hl' => hls l' (List.mem_cons_of_mem _ hl')) hrest]

/-- Lowering meets every operand, so it would meet what stands for one that is left out. -/
theorem pruned_eq_of_lower {e : Surface} (h : s.lower (e.pruned n) = .ok t) : e.pruned n = e := by
  induction e generalizing n t with
  | constant c v => cases n <;> rfl
  | name c x => cases n <;> rfl
  | other c k parts => cases n <;> rfl
  | unary c op e ih =>
      cases n with
      | zero => exact absurd h lower_tooDeep_ne_ok
      | succ n =>
          obtain ⟨u, hu, -⟩ := count_of_unary h
          rw [Surface.pruned, ih hu]
  | binary c op l r ihl ihr =>
      cases n with
      | zero => exact absurd h lower_tooDeep_ne_ok
      | succ n =>
          obtain ⟨u, w, hu, hw, -⟩ := count_of_binary h
          rw [Surface.pruned, ihl hu, ihr hw]
  | connective c b es ih =>
      cases n with
      | zero => exact absurd h lower_tooDeep_ne_ok
      | succ n =>
          obtain ⟨ts, hts, -⟩ := count_of_connective h
          rw [Surface.pruned, allPruned_eq_of_lowers (fun e he t ht => ih e he ht) hts]
  | comparison c l ls ihl ihs =>
      cases n with
      | zero => exact absurd h lower_tooDeep_ne_ok
      | succ n =>
          obtain ⟨u, rs, us, hu, hrs, -⟩ := count_of_comparison h
          rw [Surface.pruned, ihl hu, linksPruned_eq_of_lowers (fun l hl t ht => ihs l hl ht) hrs]
  | call c f args named ihf iha ihn =>
      cases n with
      | zero => exact absurd h lower_tooDeep_ne_ok
      | succ n =>
          obtain ⟨ts, hts, -⟩ := count_of_call h
          rw [Surface.pruned, allPruned_eq_of_lowers (fun e he t ht => iha e he ht) hts]

end Scope

/-! ### The first check refuses nothing more -/

/-- Compilation that looks at the nodes of the tree only. -/
def compileByCount (source : Text) (schema : Schema) (registry : Registry) (limit : Int) :
    Except FormulaError Program := do
  let e ← read source source.trim
  let root ← Scope.lower ⟨source, schema, registry⟩ (e.pruned typingDepth)
  if limit < root.count then throw (.tooComplex source root.count limit)
  return ⟨source, root, registry⟩

variable {source : Text} {schema : Schema} {registry : Registry} {limit : Int}

theorem compileByCount_eq_ok_iff {p : Program} :
    compileByCount source schema registry limit = .ok p ↔
      ∃ e root, read source source.trim = .ok e ∧
        Scope.lower ⟨source, schema, registry⟩ (e.pruned typingDepth) = .ok root ∧
        (root.count : Int) ≤ limit ∧ ⟨source, root, registry⟩ = p := by
  unfold compileByCount
  simp only [bind_eq_ok_iff]
  constructor
  · rintro ⟨e, he, root, hroot, h⟩
    by_cases hl : limit < root.count
    · simp [hl] at h
    · refine ⟨e, root, he, hroot, Int.not_lt.1 hl, ?_⟩
      simpa [hl] using h
  · rintro ⟨e, root, he, hroot, hl, rfl⟩
    have hlimit : ¬ limit < root.count := Int.not_lt.2 hl
    exact ⟨e, he, root, hroot, by simp [hlimit]⟩

theorem compile_eq_compileByCount {p : Program} :
    compile source schema registry limit = .ok p ↔
      compileByCount source schema registry limit = .ok p := by
  unfold compile compileByCount
  cases he : read source source.trim with
  | error f => exact Iff.rfl
  | ok e =>
      by_cases hsize : limit < e.size
      · -- what the first check refuses has a tree with as many nodes, if it has one at all
        refine ⟨fun h => by simp [hsize] at h, fun h => ?_⟩
        obtain ⟨e', root, he', hroot, hcount, -⟩ := compileByCount_eq_ok_iff.1
          (show compileByCount source schema registry limit = .ok p by
            unfold compileByCount
            rw [he]
            exact h)
        obtain rfl := ok_unique he he'
        rw [pruned_eq_of_lower hroot] at hroot
        have hle := size_le_count (wellJoined_of_read he) hroot
        omega
      · simp [hsize]

/-- What the two checks look at: the size of the expression and the nodes of the tree. -/
def measured (source : Text) (schema : Schema) (registry : Registry) :
    Except FormulaError (Nat × Nat) := do
  let e ← read source source.trim
  let root ← Scope.lower ⟨source, schema, registry⟩ (e.pruned typingDepth)
  return (e.size, root.count)

variable (source schema registry) in
theorem exists_of_measured {n m : Nat}
    (h : (measured source schema registry).toOption = some (n, m)) :
    ∃ e root, read source source.trim = .ok e ∧
      Scope.lower ⟨source, schema, registry⟩ (e.pruned typingDepth) = .ok root ∧
      e.size = n ∧ root.count = m := by
  cases hm : measured source schema registry with
  | error f => simp [hm, Except.toOption] at h
  | ok sizes =>
      obtain rfl : sizes = (n, m) := by simpa [hm, Except.toOption] using h
      obtain ⟨e, he, hm⟩ := bind_eq_ok_iff.1 hm
      obtain ⟨root, hroot, hm⟩ := bind_eq_ok_iff.1 hm
      obtain ⟨rfl, rfl⟩ := Prod.mk.inj (Except.ok.inj hm)
      exact ⟨e, root, he, hroot, rfl, rfl⟩

/-- Every tree that lowering gives has at least as many nodes as its expression has parts. So a
formula compiles exactly if the nodes of its tree are within the limit, as it would without the check
of its size. -/
theorem compile_eq_ok_iff_count_le :
    (∀ (s : Scope) (e : Surface) (t : Tree), e.WellJoined → s.lower e = .ok t →
      e.size ≤ t.count) ∧
    ∀ (source : Text) (schema : Schema) (registry : Registry) (limit : Int),
      (∀ p, compile source schema registry limit = .ok p ↔
        compileByCount source schema registry limit = .ok p) ∧
      ∀ e root, read source source.trim = .ok e →
        Scope.lower ⟨source, schema, registry⟩ (e.pruned typingDepth) = .ok root →
        e.WellJoined ∧ e.pruned typingDepth = e ∧
          ((∃ p, compile source schema registry limit = .ok p) ↔ (root.count : Int) ≤ limit) := by
  refine ⟨fun s e t he h => size_le_count he h, fun source schema registry limit =>
    ⟨fun p => compile_eq_compileByCount, fun e root he hroot =>
      ⟨wellJoined_of_read he, pruned_eq_of_lower hroot, ?_⟩⟩⟩
  constructor
  · rintro ⟨p, hp⟩
    obtain ⟨e', root', he', hroot', hcount, -⟩ :=
      compileByCount_eq_ok_iff.1 (compile_eq_compileByCount.1 hp)
    obtain rfl := ok_unique he he'
    obtain rfl := ok_unique hroot hroot'
    exact hcount
  · intro hcount
    exact ⟨_, compile_eq_compileByCount.2
      (compileByCount_eq_ok_iff.2 ⟨e, root, he, hroot, hcount, rfl⟩)⟩

/-- A formula of 13 expressions. One of them stands in both links of a chain, so its tree has 18
nodes. -/
def chainOnce : Text := "0 < min(amount, 5) <= days_held and not (amount == 3 or true)"

theorem compile_chainOnce :
    ∃ e root, read chainOnce chainOnce.trim = .ok e ∧
      Scope.lower ⟨chainOnce, postingSchema, Library.registry⟩ e = .ok root ∧
      e.size = 13 ∧ root.count = 18 ∧ e.size ≤ root.count ∧
      (∃ p, compile chainOnce postingSchema Library.registry 18 = .ok p) ∧
      ¬ ∃ p, compile chainOnce postingSchema Library.registry 17 = .ok p := by
  obtain ⟨e, root, he, hroot, hsize, hcount⟩ := exists_of_measured chainOnce postingSchema
    Library.registry (n := 13) (m := 18) (by decide +kernel)
  obtain ⟨hsizes, hlimits⟩ := compile_eq_ok_iff_count_le
  obtain ⟨hjoined, hpruned, hwithin⟩ := (hlimits _ _ _ 18).2 e root he hroot
  obtain ⟨-, -, hbeyond⟩ := (hlimits _ _ _ 17).2 e root he hroot
  rw [hpruned] at hroot
  refine ⟨e, root, he, hroot, hsize, hcount, hsizes _ e root hjoined hroot, ?_, ?_⟩
  · rw [hwithin, hcount]
    decide
  · rw [hbeyond, hcount]
    decide

/-! ### The work of the second check -/

/-- Some operands of an `and`, in the middle of chains of two links that stand each in the middle of
the one around it. -/
def nestedChains (operands : Nat) : Nat → Surface
  | 0 => .connective 0 true (List.replicate operands (.constant 0 (.truth true)))
  | d + 1 =>
      .comparison 0 (.constant 0 (.truth true))
        [(.eq, nestedChains operands d), (.eq, .constant 0 (.truth true))]

theorem size_nestedChains (n d : Nat) : (nestedChains n d).size = 3 * d + n + 1 := by
  induction d with
  | zero =>
      have hsizes (m : Nat) : Surface.sizes (List.replicate m (.constant 0 (.truth true))) = m := by
        induction m with
        | zero => rfl
        | succ m ih =>
            rw [List.replicate_succ, Surface.sizes, ih, Surface.inner]
            omega
      rw [nestedChains, Surface.size, Surface.inner, hsizes]
      omega
  | succ d ih =>
      simp only [Surface.size] at ih
      simp only [nestedChains, Surface.size, Surface.inner, Surface.linkSizes, Surface.linkSize]
      omega

theorem chainDepth_nestedChains (n d : Nat) : (nestedChains n d).chainDepth = d := by
  induction d with
  | zero =>
      have hdepths (m : Nat) : chainDepths (List.replicate m (.constant 0 (.truth true))) = 0 := by
        induction m with
        | zero => rfl
        | succ m ih => rw [List.replicate_succ, chainDepths, ih, Surface.chainDepth, Nat.max_self]
      exact hdepths n
  | succ d ih =>
      simp only [nestedChains, Surface.chainDepth, linkChainDepths, linkChainDepth, ih]
      omega

namespace Scope

variable {s : Scope}

theorem lower_truth : s.lower (.constant 0 (.truth true)) = .ok (.literal (.truth true) .boolean) :=
  rfl

/-- The tree of a chain around an expression holds the tree of the expression twice. -/
theorem lower_chain_around {e : Surface} {t : Tree} (h : s.lower e = .ok t)
    (hk : t.kind = .boolean) :
    ∃ u, s.lower (.comparison 0 (.constant 0 (.truth true))
        [(.eq, e), (.eq, .constant 0 (.truth true))]) = .ok u ∧
      u.kind = .boolean ∧ u.count = 2 * t.count + 5 := by
  have hlinks : s.lowerLinks [(.eq, e), (.eq, .constant 0 (.truth true))] =
      .ok [(.eq, t), (.eq, .literal (.truth true) .boolean)] :=
    s.lowerLinks_eq_ok_iff.2 (.cons ⟨rfl, h⟩ (.cons ⟨rfl, lower_truth⟩ .nil))
  have hfirst : s.link 0 (.literal (.truth true) .boolean) .eq t =
      .ok (.binary (.comparison .eq) (.literal (.truth true) .boolean) t .boolean) :=
    s.link_eq_ok_iff.2 ⟨.eq, rfl, hk.symm, nofun, rfl⟩
  have hsecond : s.link 0 t .eq (.literal (.truth true) .boolean) =
      .ok (.binary (.comparison .eq) t (.literal (.truth true) .boolean) .boolean) :=
    s.link_eq_ok_iff.2 ⟨.eq, rfl, hk, nofun, rfl⟩
  refine ⟨_, bind_eq_ok_iff.2 ⟨_, lower_truth, bind_eq_ok_iff.2 ⟨_, hlinks,
    s.comparison_eq_ok_iff.2 ⟨_, _, s.links_cons_eq_ok_iff.2 ⟨_, _, hfirst,
      s.links_cons_eq_ok_iff.2 ⟨_, _, hsecond, rfl, rfl⟩, rfl⟩, rfl⟩⟩⟩, kind_joined rfl, ?_⟩
  rw [Tree.count_joined]
  simp only [Tree.counts, Tree.count, List.length_cons, List.length_nil]
  omega

theorem lower_nestedChains (s : Scope) (n d : Nat) :
    ∃ t, s.lower (nestedChains (n + 2) d) = .ok t ∧ t.kind = .boolean ∧
      t.count + 5 = 2 ^ (d + 1) * (n + 4) := by
  induction d with
  | zero =>
      have hall : s.lowerAll (List.replicate (n + 2) (.constant 0 (.truth true))) =
          .ok (List.replicate (n + 2) (.literal (.truth true) .boolean)) := by
        refine s.lowerAll_eq_ok_iff.2 ?_
        induction n + 2 with
        | zero => exact .nil
        | succ m ih => exact .cons lower_truth ih
      have hcounts (m : Nat) :
          Tree.counts (List.replicate m (.literal (.truth true) .boolean)) = m := by
        induction m with
        | zero => rfl
        | succ m ih =>
            rw [List.replicate_succ, Tree.counts, ih, Tree.count]
            omega
      refine ⟨_, bind_eq_ok_iff.2 ⟨_, hall, s.connective_eq_ok_iff.2
        ⟨fun t ht => by rw [List.eq_of_mem_replicate ht]; rfl, _, _, rfl, rfl⟩⟩,
        kind_joined rfl, ?_⟩
      rw [Tree.count_joined, ← List.replicate_succ, hcounts, List.length_replicate]
      omega
  | succ d ih =>
      obtain ⟨t, ht, hk, hcount⟩ := ih
      obtain ⟨u, hu, huk, hucount⟩ := lower_chain_around ht hk
      refine ⟨u, hu, huk, ?_⟩
      rw [hucount, Nat.pow_succ 2 (d + 1), Nat.mul_right_comm, ← hcount]
      omega

end Scope

/-- A tree has fewer nodes than the size of its expression doubled once, and once more for each of the
chains that stand one in the middle of another. Once the first check has passed the size is within
the limit of nodes, so the second check visits fewer nodes than the limit doubled as often. The trees
of `nestedChains` come as close to the bound as one likes. -/
theorem count_lt_two_pow_mul_size :
    (∀ (s : Scope) (e : Surface) (t : Tree), s.lower e = .ok t →
      t.count < 2 ^ (e.chainDepth + 1) * e.size ∧
      (e.chainDepth ≤ 1 → t.count < 4 * e.size)) ∧
    (∀ (source : Text) (schema : Schema) (registry : Registry) (limit : Nat) (e : Surface)
      (root : Tree), read source source.trim = .ok e → e.size ≤ limit →
      Scope.lower ⟨source, schema, registry⟩ (e.pruned typingDepth) = .ok root →
      root.count < 2 ^ (e.chainDepth + 1) * limit ∧ (e.chainDepth ≤ 1 → root.count < 4 * limit)) ∧
    ∀ (s : Scope) (n d : Nat), ∃ e t, s.lower e = .ok t ∧ e.chainDepth = d ∧
      e.size = 3 * d + n + 3 ∧ t.count + 5 = 2 ^ (d + 1) * (n + 4) := by
  refine ⟨fun s e t h => ⟨within_of_lower h (Nat.le_refl _), fun hd => within_of_lower h hd⟩, ?_,
    ?_⟩
  · intro source schema registry limit e root _ hlimit h
    rw [pruned_eq_of_lower h] at h
    exact ⟨Nat.lt_of_lt_of_le (within_of_lower h (Nat.le_refl _)) (Nat.mul_le_mul_left _ hlimit),
      fun hd => Nat.lt_of_lt_of_le (within_of_lower h hd) (Nat.mul_le_mul_left _ hlimit)⟩
  · intro s n d
    obtain ⟨t, ht, -, hcount⟩ := s.lower_nestedChains n d
    exact ⟨_, t, ht, chainDepth_nestedChains _ d, size_nestedChains _ d, hcount⟩

/-- Three chains, each in the middle of the one around it: 10 expressions and 43 nodes. -/
def chainThrice : Text := "true == (true == (true == true == true) == true) == true"

theorem lower_chainThrice :
    ∃ e root, read chainThrice chainThrice.trim = .ok e ∧
      Scope.lower ⟨chainThrice, postingSchema, Library.registry⟩ (e.pruned typingDepth) = .ok root ∧
      e.size = 10 ∧ root.count = 43 :=
  exists_of_measured chainThrice postingSchema Library.registry (by decide +kernel)

theorem count_lt_of_chainThrice :
    ∃ e root, read chainThrice chainThrice.trim = .ok e ∧
      Scope.lower ⟨chainThrice, postingSchema, Library.registry⟩ e = .ok root ∧
      e.size = 10 ∧ root.count = 43 ∧ root.count < 2 ^ (e.chainDepth + 1) * e.size ∧
      root.count < 2 ^ (e.chainDepth + 1) * 12 ∧
      ∃ t, Scope.lower ⟨chainThrice, postingSchema, Library.registry⟩ (nestedChains 2 1) = .ok t ∧
        t.count = 11 ∧ t.count < 4 * 6 := by
  obtain ⟨e, root, he, hroot, hsize, hcount⟩ := lower_chainThrice
  obtain ⟨hsizes, hlimits, -⟩ := count_lt_two_pow_mul_size
  have hlimit := (hlimits _ _ _ 12 e root he (by omega) hroot).1
  rw [pruned_eq_of_lower hroot] at hroot
  obtain ⟨t, ht, -, htcount⟩ := Scope.lower_nestedChains
    ⟨chainThrice, postingSchema, Library.registry⟩ 0 1
  have hflat := (hsizes _ _ t ht).2 (by rw [chainDepth_nestedChains])
  rw [size_nestedChains] at hflat
  exact ⟨e, root, he, hroot, hsize, hcount, (hsizes _ e root hroot).1, hlimit, t, ht, by omega,
    hflat⟩

/-- Four times the size is not enough. -/
theorem not_count_le_four_mul_size :
    ¬ ∀ (s : Scope) (e : Surface) (t : Tree), s.lower e = .ok t → t.count ≤ 4 * e.size := by
  intro h
  obtain ⟨e, root, -, hroot, hsize, hcount⟩ := lower_chainThrice
  have hle := h _ _ _ hroot
  rw [pruned_eq_of_lower hroot, hcount, hsize] at hle
  omega

end Appraisal.Formula
