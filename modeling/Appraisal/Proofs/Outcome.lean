import Mathlib.Data.List.Forall2

/-!
# Outcomes

Laws of computations that end with a value or with a fault. `Sound` says of an outcome that its
value has a property, or that its fault is one of those that are allowed; it is kept from one
computation to the next. The last section is about lookups, which end with a value or without one.
-/

namespace Appraisal.Outcome

variable {ε δ α β : Type} {allowed : ε → Prop} {P : α → Prop} {Q : β → Prop}

theorem bind_eq_ok_iff {x : Except ε α} {f : α → Except ε β} {b : β} :
    (x >>= f) = .ok b ↔ ∃ a, x = .ok a ∧ f a = .ok b := by
  cases x with
  | error e => simp [bind, Except.bind]
  | ok a => simp [bind, Except.bind]

@[simp] theorem ok_bind (a : α) (f : α → Except ε β) : (Except.ok a >>= f) = f a := rfl

@[simp] theorem error_bind (e : ε) (f : α → Except ε β) :
    ((Except.error e : Except ε α) >>= f) = .error e := rfl

@[simp] theorem pure_eq_ok (a : α) : (pure a : Except ε α) = .ok a := rfl

@[simp] theorem throw_eq_error (e : ε) : (throw e : Except ε α) = .error e := rfl

theorem ok_unique {x : Except ε α} {a b : α} (ha : x = .ok a) (hb : x = .ok b) : a = b := by
  rw [ha] at hb
  exact Except.ok.inj hb

theorem exists_eq_ok_of_isSome {x : Except ε α} (h : x.toOption.isSome = true) :
    ∃ a, x = .ok a := by
  cases x with
  | error e => cases h
  | ok a => exact ⟨a, rfl⟩

theorem mapError_eq_ok_iff {f : ε → δ} {x : Except ε α} {a : α} :
    x.mapError f = .ok a ↔ x = .ok a := by
  cases x with
  | error e =>
      constructor
      · intro h
        cases h
      · intro h
        cases h
  | ok b =>
      have hmap : (Except.ok b : Except ε α).mapError f = .ok b := rfl
      rw [hmap, Except.ok.injEq, Except.ok.injEq]

theorem exists_map_iff {f : α → β} {x : Except ε α} :
    (∃ b, x.map f = .ok b) ↔ ∃ a, x = .ok a := by
  cases x <;> simp [Except.map]

theorem exists_bind_pure_iff {f : α → β} {x : Except ε α} :
    (∃ b, (x >>= fun a => (pure (f a) : Except ε β)) = .ok b) ↔ ∃ a, x = .ok a := by
  cases x <;> simp

/-- The value has a property, or the fault is one of those that are allowed. -/
def Sound (allowed : ε → Prop) (P : α → Prop) : Except ε α → Prop
  | .ok a => P a
  | .error e => allowed e

@[simp] theorem sound_ok {a : α} : Sound allowed P (.ok a) ↔ P a := Iff.rfl

@[simp] theorem sound_error {e : ε} : Sound allowed P (.error e : Except ε α) ↔ allowed e := Iff.rfl

theorem sound_trivial (x : Except ε α) : Sound (fun _ => True) (fun _ => True) x := by
  cases x <;> trivial

theorem Sound.bind {x : Except ε α} {f : α → Except ε β} (hx : Sound allowed P x)
    (hf : ∀ a, P a → Sound allowed Q (f a)) : Sound allowed Q (x >>= f) := by
  cases x with
  | error e => exact hx
  | ok a => exact hf a hx

theorem Sound.mono {allowed' : ε → Prop} {P' : α → Prop} {x : Except ε α} (hx : Sound allowed P x)
    (ha : ∀ e, allowed e → allowed' e) (hP : ∀ a, P a → P' a) : Sound allowed' P' x := by
  cases x with
  | error e => exact ha e hx
  | ok a => exact hP a hx

theorem exists_mapM_eq_ok {f : α → Except ε β} {xs : List α}
    (h : ∀ x ∈ xs, ∃ y, f x = .ok y ∧ Q y) : ∃ ys, xs.mapM f = .ok ys ∧ ∀ y ∈ ys, Q y := by
  induction xs with
  | nil => exact ⟨[], rfl, fun y hy => by cases hy⟩
  | cons x xs ih =>
      rw [List.forall_mem_cons] at h
      obtain ⟨y, hy, hQ⟩ := h.1
      obtain ⟨ys, hys, hQs⟩ := ih h.2
      refine ⟨y :: ys, by simp [List.mapM_cons, hy, hys], ?_⟩
      rw [List.forall_mem_cons]
      exact ⟨hQ, hQs⟩

/-- Values that are computed one by one come in the order of what they are computed from. -/
theorem exists_mapM_of_perm {f : α → Except ε β} {xs ys : List α} (h : xs.Perm ys) {as : List β}
    (has : xs.mapM f = .ok as) : ∃ bs, ys.mapM f = .ok bs ∧ as.Perm bs := by
  induction h generalizing as with
  | nil => exact ⟨as, has, .refl as⟩
  | cons x h ih =>
      simp only [List.mapM_cons, bind_eq_ok_iff, pure_eq_ok, Except.ok.injEq] at has ⊢
      obtain ⟨a, ha, as', has', rfl⟩ := has
      obtain ⟨bs, hbs, hperm⟩ := ih has'
      exact ⟨a :: bs, ⟨a, ha, bs, hbs, rfl⟩, hperm.cons a⟩
  | swap x y zs =>
      simp only [List.mapM_cons, bind_eq_ok_iff, pure_eq_ok, Except.ok.injEq] at has ⊢
      obtain ⟨b, hb, -, ⟨a, ha, as', has', rfl⟩, rfl⟩ := has
      exact ⟨a :: b :: as', ⟨a, ha, b :: as', ⟨b, hb, as', has', rfl⟩, rfl⟩, .swap a b as'⟩
  | trans _ _ ih ih' =>
      obtain ⟨bs, hbs, hperm⟩ := ih has
      obtain ⟨cs, hcs, hperm'⟩ := ih' hbs
      exact ⟨cs, hcs, hperm.trans hperm'⟩

theorem mapM_congr {f g : α → Except ε β} {xs : List α}
    (h : ∀ x ∈ xs, f x = g x) : xs.mapM f = xs.mapM g := by
  induction xs with
  | nil => rfl
  | cons x xs ih =>
      rw [List.forall_mem_cons] at h
      rw [List.mapM_cons, List.mapM_cons, h.1, ih h.2]

/-- All values are computed if each of them is. -/
theorem exists_mapM_iff {f : α → Except ε β} {xs : List α} :
    (∃ ys, xs.mapM f = .ok ys) ↔ ∀ x ∈ xs, ∃ y, f x = .ok y := by
  induction xs with
  | nil => simp
  | cons x xs ih =>
      simp only [List.mapM_cons, bind_eq_ok_iff, pure_eq_ok, Except.ok.injEq, List.forall_mem_cons,
        ← ih]
      constructor
      · rintro ⟨ys, y, hy, ys', hys', -⟩
        exact ⟨⟨y, hy⟩, ys', hys'⟩
      · rintro ⟨⟨y, hy⟩, ys', hys'⟩
        exact ⟨y :: ys', y, hy, ys', hys', rfl⟩

theorem forall_of_mapM_eq_ok {f : α → Except ε β} {xs : List α} {ys : List β}
    (h : ∀ x y, f x = .ok y → Q y) (hys : xs.mapM f = .ok ys) : ∀ y ∈ ys, Q y := by
  have hvalue : ∀ x ∈ xs, ∃ y, f x = .ok y ∧ Q y := fun x hx => by
    obtain ⟨y, hy⟩ := exists_mapM_iff.1 ⟨ys, hys⟩ x hx
    exact ⟨y, hy, h x y hy⟩
  obtain ⟨ys', hys', hQ⟩ := exists_mapM_eq_ok hvalue
  rwa [ok_unique hys hys']

theorem filterMap_toOption_of_mapM {f : α → Except ε β} {xs : List α} {ys : List β}
    (h : xs.mapM f = .ok ys) : xs.filterMap (fun x => (f x).toOption) = ys := by
  induction xs generalizing ys with
  | nil => exact Except.ok.inj h
  | cons x xs ih =>
      simp only [List.mapM_cons, bind_eq_ok_iff, pure_eq_ok, Except.ok.injEq] at h
      obtain ⟨y, hy, ys', hys', rfl⟩ := h
      rw [List.filterMap_cons, hy, ih hys']
      rfl

/-- The fault of values that are computed one by one is the fault of one of them. -/
theorem exists_of_mapM_eq_error {f : α → Except ε β} {xs : List α} {e : ε}
    (h : xs.mapM f = .error e) : ∃ x ∈ xs, f x = .error e := by
  induction xs with
  | nil => cases h
  | cons x xs ih =>
      rw [List.mapM_cons] at h
      cases hx : f x with
      | error e' =>
          rw [hx] at h
          obtain rfl : e' = e := Except.error.inj h
          exact ⟨x, List.mem_cons_self, hx⟩
      | ok y =>
          rw [hx, ok_bind] at h
          cases hxs : xs.mapM f with
          | error e' =>
              rw [hxs] at h
              obtain rfl : e' = e := Except.error.inj h
              obtain ⟨x', hmem, hx'⟩ := ih hxs
              exact ⟨x', List.mem_cons_of_mem _ hmem, hx'⟩
          | ok ys =>
              rw [hxs] at h
              cases h

theorem exists_mem_of_forall₂ {R : α → β → Prop} {as : List α} {bs : List β}
    (h : List.Forall₂ R as bs) {b : β} (hb : b ∈ bs) : ∃ a ∈ as, R a b := by
  induction h with
  | nil => simp at hb
  | @cons a c as bs hac _ ih =>
      rcases List.mem_cons.1 hb with rfl | hb
      · exact ⟨a, by simp, hac⟩
      · obtain ⟨a', ha', hr⟩ := ih hb
        exact ⟨a', by simp [ha'], hr⟩

/-! ### Lookups -/

section

variable {κ ν : Type} [BEq κ] [LawfulBEq κ] {table : List (κ × ν)} {k : κ} {v : ν}

theorem mem_of_lookup (h : table.lookup k = some v) : (k, v) ∈ table := by
  obtain ⟨before, after, rfl, -⟩ := List.lookup_eq_some_iff.1 h
  exact List.mem_append_right _ List.mem_cons_self

theorem lookup_of_mem (hnodup : (table.map Prod.fst).Nodup) (h : (k, v) ∈ table) :
    table.lookup k = some v := by
  obtain ⟨before, after, rfl⟩ := List.append_of_mem h
  refine List.lookup_eq_some_iff.2 ⟨before, after, rfl, fun e he => bne_iff_ne.2 ?_⟩
  rw [List.map_append, List.map_cons] at hnodup
  exact ((List.nodup_append.1 hnodup).2.2 e.1 (List.mem_map_of_mem he) k List.mem_cons_self).symm

theorem not_mem_of_lookup_eq_none (h : table.lookup k = none) : k ∉ table.map Prod.fst := by
  intro hmem
  obtain ⟨e, he, rfl⟩ := List.mem_map.1 hmem
  exact bne_iff_ne.1 (List.lookup_eq_none_iff.1 h e he) rfl

end

end Appraisal.Outcome
