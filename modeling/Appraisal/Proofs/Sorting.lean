import Appraisal.Sorting

/-!
# Sorted lists

Sorting keeps the elements of a list. With a transitive order in which nothing is less than itself,
no element of the result stands in front of one that is less. When, besides, elements that are not
ordered have the same elements below and above them, sorting is stable: it can be exchanged with
leaving elements out.
-/

namespace Appraisal

variable {α : Type} {lt : α → α → Bool}

theorem mem_insertSorted {x z : α} {ys : List α} :
    z ∈ insertSorted lt x ys ↔ z = x ∨ z ∈ ys := by
  rw [(perm_insertSorted lt x ys).mem_iff, List.mem_cons]

theorem perm_sorted (lt : α → α → Bool) (xs : List α) : (sorted lt xs).Perm xs := by
  have hfold (acc : List α) :
      (xs.foldl (fun acc x => insertSorted lt x acc) acc).Perm (xs ++ acc) := by
    induction xs generalizing acc with
    | nil => exact .refl _
    | cons x xs ih =>
        refine (ih (insertSorted lt x acc)).trans ?_
        refine ((perm_insertSorted lt x acc).append_left xs).trans ?_
        exact List.perm_middle
  have h := hfold []
  rwa [List.append_nil] at h

theorem pairwise_insertSorted (htrans : ∀ a b c, lt a b = true → lt b c = true → lt a c = true)
    (hirrefl : ∀ a, lt a a = false) {x : α} {ys : List α}
    (h : ys.Pairwise (fun a b => lt b a = false)) :
    (insertSorted lt x ys).Pairwise (fun a b => lt b a = false) := by
  induction ys with
  | nil => exact List.pairwise_singleton _ _
  | cons y ys ih =>
      rw [List.pairwise_cons] at h
      unfold insertSorted
      by_cases hxy : lt x y = true
      · rw [if_pos hxy, List.pairwise_cons, List.pairwise_cons]
        refine ⟨fun z hz => ?_, h⟩
        -- an element from `y` on that is less than `x` would be less than `y`
        have hzy : lt z y = false := by
          rcases List.mem_cons.1 hz with rfl | hz
          · exact hirrefl z
          · exact h.1 z hz
        cases hzx : lt z x with
        | false => rfl
        | true =>
            rw [htrans z x y hzx hxy] at hzy
            exact hzy
      · rw [if_neg hxy, List.pairwise_cons]
        refine ⟨fun z hz => ?_, ih h.2⟩
        rcases mem_insertSorted.1 hz with rfl | hz
        · simpa using hxy
        · exact h.1 z hz

theorem pairwise_sorted (htrans : ∀ a b c, lt a b = true → lt b c = true → lt a c = true)
    (hirrefl : ∀ a, lt a a = false) (xs : List α) :
    (sorted lt xs).Pairwise (fun a b => lt b a = false) := by
  have hfold (acc : List α) (hacc : acc.Pairwise (fun a b => lt b a = false)) :
      (xs.foldl (fun acc x => insertSorted lt x acc) acc).Pairwise
        (fun a b => lt b a = false) := by
    induction xs generalizing acc with
    | nil => exact hacc
    | cons x xs ih => exact ih _ (pairwise_insertSorted htrans hirrefl hacc)
  exact hfold [] List.Pairwise.nil

/-- A list in which everything with a property stands in front of everything without it. -/
theorem eq_filter_append_filter {p : α → Bool} {xs : List α}
    (h : xs.Pairwise (fun a b => p b = true → p a = true)) :
    xs = xs.filter p ++ xs.filter (fun x => !p x) := by
  induction xs with
  | nil => rfl
  | cons x xs ih =>
      rw [List.pairwise_cons] at h
      by_cases hx : p x = true
      · rw [List.filter_cons_of_pos hx, List.filter_cons_of_neg (by simp [hx]), List.cons_append,
          ← ih h.2]
      · have hall : ∀ y ∈ xs, ¬ p y = true := fun y hy hp => hx (h.1 y hy hp)
        have hnone : xs.filter p = [] := List.filter_eq_nil_iff.2 hall
        have hrest : xs.filter (fun x => !p x) = xs :=
          List.filter_eq_self.2 (fun y hy => by simp [hall y hy])
        rw [List.filter_cons_of_neg hx, List.filter_cons_of_pos (by simp [hx]), hnone, hrest,
          List.nil_append]

/-! ### Stability -/

theorem insertSorted_of_before {x : α} {ys : List α} (h : ∀ y ∈ ys, lt x y = true) :
    insertSorted lt x ys = x :: ys := by
  cases ys with
  | nil => rfl
  | cons y ys => rw [insertSorted, if_pos (h y List.mem_cons_self)]

theorem insertSorted_of_not_before {x : α} {ys : List α} (h : ∀ y ∈ ys, lt x y = false) :
    insertSorted lt x ys = ys ++ [x] := by
  induction ys with
  | nil => rfl
  | cons y ys ih =>
      rw [List.forall_mem_cons] at h
      rw [insertSorted, if_neg (by simp [h.1]), ih h.2, List.cons_append]

/-- A list that is in order stays as it is. -/
theorem sorted_of_pairwise {xs : List α} (h : xs.Pairwise (fun a b => lt b a = false)) :
    sorted lt xs = xs := by
  have hfold (acc : List α) (hacc : (acc ++ xs).Pairwise (fun a b => lt b a = false)) :
      xs.foldl (fun acc x => insertSorted lt x acc) acc = acc ++ xs := by
    induction xs generalizing acc with
    | nil => simp
    | cons x xs ih =>
        have hx : insertSorted lt x acc = acc ++ [x] := by
          apply insertSorted_of_not_before
          intro y hy
          exact (List.pairwise_append.1 hacc).2.2 y hy x List.mem_cons_self
        rw [List.append_cons] at hacc
        rw [List.foldl_cons, hx, ih (List.pairwise_cons.1 h).2 _ hacc, List.append_assoc,
          List.singleton_append]
  exact hfold [] h

/-- Elements that are not ordered keep their places. -/
theorem sorted_of_unordered {xs : List α} (h : ∀ x ∈ xs, ∀ y ∈ xs, lt x y = false) :
    sorted lt xs = xs :=
  sorted_of_pairwise (List.pairwise_of_forall_mem_list (fun x hx y hy => h y hy x hx))

theorem filter_insertSorted (hweak : ∀ a b c, lt a b = true → lt c b = false → lt a c = true)
    (p : α → Bool) {x : α} {ys : List α} (h : ys.Pairwise (fun a b => lt b a = false)) :
    (insertSorted lt x ys).filter p =
      if p x = true then insertSorted lt x (ys.filter p) else ys.filter p := by
  induction ys with
  | nil => by_cases hp : p x = true <;> simp [insertSorted, hp]
  | cons y ys ih =>
      have hpair := List.pairwise_cons.1 h
      by_cases hxy : lt x y = true
      · have hall : ∀ z ∈ (y :: ys).filter p, lt x z = true := by
          intro z hz
          rcases List.mem_cons.1 (List.mem_filter.1 hz).1 with rfl | hz
          · exact hxy
          · exact hweak x y z hxy (hpair.1 z hz)
        rw [insertSorted, if_pos hxy, List.filter_cons, insertSorted_of_before hall]
      · rw [insertSorted, if_neg hxy, List.filter_cons, ih hpair.2]
        by_cases hy : p y = true
        · by_cases hx : p x = true
          · simp [hx, hy, insertSorted, hxy]
          · simp [hx, hy]
        · simp [hy]

/-- Leaving elements out of a sorted list gives what sorting the others gives. -/
theorem filter_sorted (htrans : ∀ a b c, lt a b = true → lt b c = true → lt a c = true)
    (hirrefl : ∀ a, lt a a = false)
    (hweak : ∀ a b c, lt a b = true → lt c b = false → lt a c = true) (p : α → Bool)
    (xs : List α) : (sorted lt xs).filter p = sorted lt (xs.filter p) := by
  have hfold (acc : List α) (hacc : acc.Pairwise (fun a b => lt b a = false)) :
      (xs.foldl (fun acc x => insertSorted lt x acc) acc).filter p =
        (xs.filter p).foldl (fun acc x => insertSorted lt x acc) (acc.filter p) := by
    induction xs generalizing acc with
    | nil => rfl
    | cons x xs ih =>
        rw [List.foldl_cons, ih _ (pairwise_insertSorted htrans hirrefl hacc),
          filter_insertSorted hweak p hacc]
        by_cases hx : p x = true
        · rw [if_pos hx, List.filter_cons_of_pos hx, List.foldl_cons]
        · rw [if_neg hx, List.filter_cons_of_neg hx]
  exact hfold [] List.Pairwise.nil

end Appraisal
