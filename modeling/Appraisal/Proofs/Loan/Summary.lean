import Mathlib.Algebra.BigOperators.Group.Finset.Piecewise
import Appraisal.Loan.Summary
import Appraisal.Proofs.Decimal.Exact
import Appraisal.Proofs.Outcome

/-!
# What a summary counts

The totals and the two lists of tallies are gathered side by side while the loans are taken one after
the other. When the amounts add exactly, a summary always results, each of its figures is that of the
loans it stands for, and their order does not matter.
-/

namespace Appraisal

open Outcome Decimal

/-! ### Groups -/

/-- Items are the items of their keys put together. -/
theorem sum_groups {α κ M : Type} [DecidableEq κ] [AddCommMonoid M] {key : α → κ} (f : α → M)
    {keys : List κ} (hnodup : keys.Nodup) {xs : List α} (hall : ∀ x ∈ xs, key x ∈ keys) :
    (keys.map (fun k => ((xs.filter (key · = k)).map f).sum)).sum = (xs.map f).sum := by
  induction xs with
  | nil => simp
  | cons x xs ih =>
      rw [List.forall_mem_cons] at hall
      have hsplit (k : κ) : (((x :: xs).filter (key · = k)).map f).sum =
          (if k = key x then f x else 0) + ((xs.filter (key · = k)).map f).sum := by
        by_cases hk : key x = k
        · simp [hk]
        · simp [hk, Ne.symm hk]
      have hone : (keys.map (fun k => if k = key x then f x else 0)).sum = f x := by
        rw [← List.sum_toFinset _ hnodup, Finset.sum_ite_eq', if_pos (List.mem_toFinset.2 hall.1)]
      rw [funext hsplit, List.sum_map_add, hone, ih hall.2, List.map_cons, List.sum_cons]

/-! ### Tallies -/

namespace Tally

structure IsOf (t : Tally) (amounts : List Decimal) : Prop where
  count_eq : t.count = amounts.length
  amount_eq : t.amount.IsSum amounts

def Equal (t u : Tally) : Prop := t.count = u.count ∧ t.amount.equal u.amount = .ok true

theorem isOf_empty : empty.IsOf [] := ⟨rfl, isSum_nil⟩

theorem IsOf.exists_add {t : Tally} {amounts : List Decimal} {amount : Decimal}
    (ht : t.IsOf amounts) (h : AddsExactly (amounts ++ [amount])) :
    ∃ next, t.add amount = .ok next ∧ next.IsOf (amounts ++ [amount]) := by
  obtain ⟨total, hadd, htotal⟩ := ht.amount_eq.exists_add h
  refine ⟨⟨t.count + 1, total⟩, ?_, ?_, htotal⟩
  · unfold add
    rw [hadd]
    rfl
  · rw [List.length_append, ← ht.count_eq]
    rfl

theorem IsOf.equal_of_perm {t u : Tally} {amounts others : List Decimal} (ht : t.IsOf amounts)
    (hu : u.IsOf others) (h : others.Perm amounts) : u.Equal t :=
  ⟨hu.count_eq.trans (h.length_eq.trans ht.count_eq.symm), ht.amount_eq.equal_of_perm hu.amount_eq h⟩

end Tally

section

variable {α κ : Type} [DecidableEq κ]

/-- Adding to the tally of one key leaves those of the others as they are. -/
theorem exists_addTally (amounts : κ → List Decimal) {k : κ} {amount : Decimal}
    {tallies : List (κ × Tally)} (hnodup : (tallies.map Prod.fst).Nodup)
    (htallies : ∀ e ∈ tallies, e.2.IsOf (amounts e.1))
    (hnew : k ∉ tallies.map Prod.fst → amounts k = []) (h : AddsExactly (amounts k ++ [amount])) :
    ∃ next, addTally k amount tallies = .ok next ∧
      (∀ e ∈ next, e.2.IsOf (if e.1 = k then amounts k ++ [amount] else amounts e.1)) ∧
      next.map Prod.fst =
        if k ∈ tallies.map Prod.fst then tallies.map Prod.fst else tallies.map Prod.fst ++ [k] := by
  induction tallies with
  | nil =>
      have hnil : amounts k = [] := hnew (by simp)
      rw [hnil] at h
      obtain ⟨t, hadd, ht⟩ := Tally.isOf_empty.exists_add h
      refine ⟨[(k, t)], ?_, ?_, by simp⟩
      · unfold addTally
        rw [hadd]
        rfl
      · intro e he
        obtain rfl := List.mem_singleton.1 he
        rw [if_pos rfl, hnil]
        exact ht
  | cons e rest ih =>
      obtain ⟨k', t⟩ := e
      rw [List.map_cons, List.nodup_cons] at hnodup
      rw [List.forall_mem_cons] at htallies
      unfold addTally
      by_cases hk : k' = k
      · subst hk
        obtain ⟨t', hadd, ht'⟩ := htallies.1.exists_add h
        refine ⟨(k', t') :: rest, ?_, ?_, by simp⟩
        · rw [if_pos rfl, hadd]
          rfl
        · rw [List.forall_mem_cons]
          refine ⟨by rw [if_pos rfl]; exact ht', fun e he => ?_⟩
          have hother : e.1 ≠ k' := by
            rintro rfl
            exact hnodup.1 (List.mem_map.2 ⟨e, he, rfl⟩)
          rw [if_neg hother]
          exact htallies.2 e he
      · have hmem : k ∈ ((k', t) :: rest).map Prod.fst ↔ k ∈ rest.map Prod.fst := by
          simp [Ne.symm hk]
        obtain ⟨next, hadd, hnext, hkeys⟩ := ih hnodup.2 htallies.2 (fun hk => hnew (mt hmem.1 hk))
        refine ⟨(k', t) :: next, ?_, ?_, ?_⟩
        · rw [if_neg hk, hadd]
          rfl
        · rw [List.forall_mem_cons, if_neg hk]
          exact ⟨htallies.1, hnext⟩
        · rw [List.map_cons, hkeys]
          by_cases hin : k ∈ rest.map Prod.fst
          · rw [if_pos hin, if_pos (hmem.2 hin), List.map_cons]
          · rw [if_neg hin, if_neg (mt hmem.1 hin), List.map_cons, List.cons_append]

/-- The tallies of items by a key: one for each key that occurs, and none for another. -/
structure Tallies (key : α → κ) (amount : α → Decimal) (xs : List α) (tallies : List (κ × Tally)) :
    Prop where
  nodup : (tallies.map Prod.fst).Nodup
  mem_iff : ∀ k, k ∈ tallies.map Prod.fst ↔ ∃ x ∈ xs, key x = k
  isOf : ∀ e ∈ tallies, e.2.IsOf ((xs.filter (key · = e.1)).map amount)

variable {key : α → κ} {amount : α → Decimal} {xs ys : List α} {tallies others : List (κ × Tally)}

theorem tallies_nil : Tallies key amount [] [] := ⟨List.nodup_nil, by simp, by simp⟩

theorem Tallies.exists_addTally (h : Tallies key amount xs tallies) (x : α)
    (hexact : AddsExactly ((xs ++ [x]).map amount)) :
    ∃ next, addTally (key x) (amount x) tallies = .ok next ∧
      Tallies key amount (xs ++ [x]) next := by
  have hgroup (k : κ) : ((xs ++ [x]).filter (key · = k)).map amount =
      if k = key x then (xs.filter (key · = key x)).map amount ++ [amount x]
      else (xs.filter (key · = k)).map amount := by
    by_cases hk : k = key x
    · subst hk
      simp
    · simp [hk, Ne.symm hk]
  have hpart : AddsExactly ((xs.filter (key · = key x)).map amount ++ [amount x]) := by
    refine hexact.sublist ?_
    rw [List.map_append]
    exact (List.filter_sublist.map amount).append (List.Sublist.refl _)
  have hnew : key x ∉ tallies.map Prod.fst → (xs.filter (key · = key x)).map amount = [] := by
    intro hk
    rw [h.mem_iff] at hk
    rw [List.map_eq_nil_iff, List.filter_eq_nil_iff]
    intro y hy heq
    exact hk ⟨y, hy, of_decide_eq_true heq⟩
  obtain ⟨next, hadd, hnext, hkeys⟩ := Appraisal.exists_addTally
    (fun k => (xs.filter (key · = k)).map amount) h.nodup h.isOf hnew hpart
  refine ⟨next, hadd, ?_, fun k => ?_, fun e he => ?_⟩
  · rw [hkeys]
    split
    · exact h.nodup
    · rename_i hk
      exact h.nodup.append (List.nodup_singleton _) (by simpa using hk)
  · have hcons : (∃ y ∈ xs ++ [x], key y = k) ↔ (∃ y ∈ xs, key y = k) ∨ key x = k := by
      simp [or_and_right, exists_or]
    rw [hkeys, hcons, ← h.mem_iff]
    by_cases hin : key x ∈ tallies.map Prod.fst
    · rw [if_pos hin]
      exact ⟨.inl, fun hk => hk.elim id (fun heq => heq ▸ hin)⟩
    · rw [if_neg hin, List.mem_append, List.mem_singleton]
      exact or_congr_right ⟨Eq.symm, Eq.symm⟩
  · rw [hgroup]
    exact hnext e he

/-- What is summed over the items of each key is summed over all items. -/
theorem Tallies.sum_eq {M : Type} [AddCommMonoid M] (h : Tallies key amount xs tallies)
    (f : α → M) {g : Tally → M}
    (hg : ∀ e ∈ tallies, g e.2 = ((xs.filter (key · = e.1)).map f).sum) :
    (tallies.map (fun e => g e.2)).sum = (xs.map f).sum := by
  have hmap : tallies.map (fun e => g e.2) =
      (tallies.map Prod.fst).map (fun k => ((xs.filter (key · = k)).map f).sum) := by
    rw [List.map_map]
    exact List.map_congr_left hg
  rw [hmap]
  exact sum_groups f h.nodup (fun x hx => (h.mem_iff _).2 ⟨x, hx, rfl⟩)

theorem Tallies.sum_counts (h : Tallies key amount xs tallies) :
    (tallies.map (fun e => e.2.count)).sum = xs.length := by
  have hsum := h.sum_eq (fun _ => 1) (g := Tally.count) (fun e he => by
    rw [(h.isOf e he).count_eq]
    simp)
  rw [hsum]
  simp

theorem Tallies.sum_amounts (h : Tallies key amount xs tallies) :
    ((tallies.map (fun e => e.2.amount)).map toRat).sum = ((xs.map amount).map toRat).sum := by
  rw [List.map_map, List.map_map]
  exact h.sum_eq (toRat ∘ amount) (g := toRat ∘ Tally.amount) (fun e he => by
    rw [← List.map_map]
    exact (h.isOf e he).amount_eq.2)

def countOf (k : κ) (tallies : List (κ × Tally)) : Nat :=
  ((tallies.lookup k).map Tally.count).getD 0

theorem Tallies.countOf_eq (h : Tallies key amount xs tallies) (k : κ) :
    countOf k tallies = (xs.filter (key · = k)).length := by
  unfold countOf
  cases hlookup : tallies.lookup k with
  | some t =>
      have ht := (h.isOf _ (mem_of_lookup hlookup)).count_eq
      rwa [List.length_map] at ht
  | none =>
      have hk : ¬ ∃ x ∈ xs, key x = k := mt (h.mem_iff k).2 (not_mem_of_lookup_eq_none hlookup)
      have hnil : xs.filter (key · = k) = [] := by
        rw [List.filter_eq_nil_iff]
        intro x hx heq
        exact hk ⟨x, hx, of_decide_eq_true heq⟩
      rw [hnil]
      rfl

/-- The order of the items does not change what is found under a key. -/
theorem Tallies.equal_of_perm (h : Tallies key amount xs tallies)
    (h' : Tallies key amount ys others) (hperm : ys.Perm xs) (k : κ) :
    Option.Rel Tally.Equal (others.lookup k) (tallies.lookup k) := by
  have hkeys : k ∈ others.map Prod.fst ↔ k ∈ tallies.map Prod.fst := by
    rw [h.mem_iff, h'.mem_iff]
    exact exists_congr (fun x => and_congr_left' hperm.mem_iff)
  cases ht : tallies.lookup k with
  | none =>
      cases hu : others.lookup k with
      | none => exact .none
      | some u =>
          have hmem := List.mem_map_of_mem (f := Prod.fst) (mem_of_lookup hu)
          exact absurd (hkeys.1 hmem) (not_mem_of_lookup_eq_none ht)
  | some t =>
      cases hu : others.lookup k with
      | none =>
          have hmem := List.mem_map_of_mem (f := Prod.fst) (mem_of_lookup ht)
          exact absurd (hkeys.2 hmem) (not_mem_of_lookup_eq_none hu)
      | some u =>
          have hamounts := (hperm.filter (fun x => decide (key x = k))).map amount
          exact .some ((h.isOf _ (mem_of_lookup ht)).equal_of_perm
            (h'.isOf _ (mem_of_lookup hu)) hamounts)

end

/-! ### Summaries -/

namespace Summary

structure Summarizes (loans : List Loan) (s : Summary) : Prop where
  totalLent : s.totalLent.IsSum (loans.map Loan.principal)
  totalValue : s.totalValue.IsSum (loans.map Loan.currentValue)
  totalGain : s.totalGain.IsSum (loans.map Loan.gain)
  totalAccounts : s.totalAccounts = loans.length
  byStatus : Tallies Loan.status Loan.principal loans s.byStatus
  byRisk : Tallies Loan.risk Loan.principal loans s.byRisk

/-- The principals, the values and the gains of loans each add exactly. -/
structure IsExact (loans : List Loan) : Prop where
  principals : AddsExactly (loans.map Loan.principal)
  values : AddsExactly (loans.map Loan.currentValue)
  gains : AddsExactly (loans.map Loan.gain)

variable {loans others : List Loan} {s s' : Summary}

theorem IsExact.sublist (h : IsExact loans) (hpart : others.Sublist loans) : IsExact others :=
  ⟨h.principals.sublist (hpart.map _), h.values.sublist (hpart.map _),
    h.gains.sublist (hpart.map _)⟩

theorem IsExact.perm (h : IsExact loans) (hperm : others.Perm loans) : IsExact others :=
  ⟨h.principals.perm (hperm.map _), h.values.perm (hperm.map _), h.gains.perm (hperm.map _)⟩

theorem summarizes_empty (currency : Text) : Summarizes [] (empty currency) :=
  ⟨isSum_nil, isSum_nil, isSum_nil, rfl, tallies_nil, tallies_nil⟩

theorem Summarizes.exists_add (h : Summarizes loans s) (l : Loan) (hexact : IsExact (loans ++ [l])) :
    ∃ next, s.add l = .ok next ∧ Summarizes (loans ++ [l]) next := by
  have hprincipals := hexact.principals
  have hvalues := hexact.values
  have hgains := hexact.gains
  rw [List.map_append, List.map_singleton] at hprincipals hvalues hgains
  obtain ⟨lent, hlent, htotalLent⟩ := h.totalLent.exists_add hprincipals
  obtain ⟨value, hvalue, htotalValue⟩ := h.totalValue.exists_add hvalues
  obtain ⟨gain, hgain, htotalGain⟩ := h.totalGain.exists_add hgains
  obtain ⟨byStatus, hstatus, hbyStatus⟩ := h.byStatus.exists_addTally l hexact.principals
  obtain ⟨byRisk, hrisk, hbyRisk⟩ := h.byRisk.exists_addTally l hexact.principals
  refine ⟨⟨lent, value, gain, s.totalAccounts + 1, byStatus, byRisk, s.currency⟩, ?_, ?_⟩
  · unfold add
    rw [hlent, hvalue, hgain, hstatus, hrisk]
    rfl
  · rw [← List.map_singleton (f := Loan.principal), ← List.map_append] at htotalLent
    rw [← List.map_singleton (f := Loan.currentValue), ← List.map_append] at htotalValue
    rw [← List.map_singleton (f := Loan.gain), ← List.map_append] at htotalGain
    refine ⟨htotalLent, htotalValue, htotalGain, ?_, hbyStatus, hbyRisk⟩
    rw [List.length_append, ← h.totalAccounts]
    rfl

theorem Summarizes.exists_foldlM (h : Summarizes loans s) (rest : List Loan)
    (hexact : IsExact (loans ++ rest)) :
    ∃ next, rest.foldlM add s = .ok next ∧ Summarizes (loans ++ rest) next := by
  induction rest generalizing loans s with
  | nil => exact ⟨s, rfl, by rwa [List.append_nil]⟩
  | cons l rest ih =>
      rw [List.append_cons] at hexact ⊢
      obtain ⟨s', hadd, hs'⟩ :=
        h.exists_add l (hexact.sublist (List.sublist_append_left _ rest))
      obtain ⟨next, hrest, hnext⟩ := ih hs' hexact
      refine ⟨next, ?_, hnext⟩
      rw [List.foldlM_cons, hadd]
      exact hrest

theorem exists_ofLoans (h : IsExact loans) (currency : Text) :
    ∃ s, ofLoans loans currency = .ok s ∧ Summarizes loans s :=
  (summarizes_empty currency).exists_foldlM loans h

theorem currency_of_add {s s' : Summary} {l : Loan} (h : s.add l = .ok s') :
    s'.currency = s.currency := by
  unfold add at h
  obtain ⟨lent, -, h⟩ := bind_eq_ok_iff.1 h
  obtain ⟨value, -, h⟩ := bind_eq_ok_iff.1 h
  obtain ⟨gain, -, h⟩ := bind_eq_ok_iff.1 h
  obtain ⟨byStatus, -, h⟩ := bind_eq_ok_iff.1 h
  obtain ⟨byRisk, -, h⟩ := bind_eq_ok_iff.1 h
  rw [← Except.ok.inj h]

theorem currency_of_foldlM {loans : List Loan} {start s : Summary}
    (h : loans.foldlM add start = .ok s) : s.currency = start.currency := by
  induction loans generalizing start with
  | nil => rw [← Except.ok.inj h]
  | cons l ls ih =>
      rw [List.foldlM_cons] at h
      obtain ⟨next, hadd, h⟩ := bind_eq_ok_iff.1 h
      rw [ih h, currency_of_add hadd]

/-- Equality of summaries, with amounts compared by their numbers and tallies by their keys. -/
structure Equal (s s' : Summary) : Prop where
  totalLent : s.totalLent.equal s'.totalLent = .ok true
  totalValue : s.totalValue.equal s'.totalValue = .ok true
  totalGain : s.totalGain.equal s'.totalGain = .ok true
  totalAccounts : s.totalAccounts = s'.totalAccounts
  byStatus : ∀ status, Option.Rel Tally.Equal (s.byStatus.lookup status) (s'.byStatus.lookup status)
  byRisk : ∀ risk, Option.Rel Tally.Equal (s.byRisk.lookup risk) (s'.byRisk.lookup risk)
  currency : s.currency = s'.currency

theorem Summarizes.equal_of_perm (h : Summarizes loans s) (h' : Summarizes others s')
    (hperm : others.Perm loans) (hcurrency : s'.currency = s.currency) : s'.Equal s where
  totalLent := h.totalLent.equal_of_perm h'.totalLent (hperm.map _)
  totalValue := h.totalValue.equal_of_perm h'.totalValue (hperm.map _)
  totalGain := h.totalGain.equal_of_perm h'.totalGain (hperm.map _)
  totalAccounts := h'.totalAccounts.trans (hperm.length_eq.trans h.totalAccounts.symm)
  byStatus := h.byStatus.equal_of_perm h'.byStatus hperm
  byRisk := h.byRisk.equal_of_perm h'.byRisk hperm
  currency := hcurrency

end Summary

end Appraisal
