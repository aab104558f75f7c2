import Mathlib.Data.Rat.Cast.Order
import Appraisal.Decimal.Arithmetic
import Appraisal.Proofs.Number.Digits

/-!
# Decimals as numbers

A finite decimal is a rational number. Decimals are compared by their numbers. Numbers that are
written with so many places are multiples of a power of ten.
-/

namespace Appraisal.Decimal

def number (s : Bool) (c : Nat) (e : Int) : ℚ := (if s then -(c : ℚ) else c) * 10 ^ e

def toRat : Decimal → ℚ
  | finite s c e => number s c e
  | _ => 0

def HasValue (d : Decimal) (q : ℚ) : Prop := d.isFinite = true ∧ d.toRat = q

theorem hasValue_finite (s : Bool) (c : Nat) (e : Int) :
    (finite s c e).HasValue (number s c e) := ⟨rfl, rfl⟩

theorem HasValue.exists_finite {d : Decimal} {q : ℚ} (h : d.HasValue q) :
    ∃ s c e, d = finite s c e ∧ number s c e = q := by
  obtain ⟨hfinite, hq⟩ := h
  cases d with
  | finite s c e => exact ⟨s, c, e, rfl, hq⟩
  | infinite s => cases hfinite
  | nan s g p => cases hfinite

/-! ### Magnitudes -/

theorem ten_zpow_pos (e : Int) : (0 : ℚ) < 10 ^ e := zpow_pos (by norm_num) e

@[simp] theorem number_zero (s : Bool) (e : Int) : number s 0 e = 0 := by
  cases s <;> simp [number]

theorem number_true (c : Nat) (e : Int) : number true c e = -number false c e := by
  simp [number]

theorem number_congr {s : Bool} {c c' : Nat} {e e' : Int} (h : (c : ℚ) * 10 ^ e = c' * 10 ^ e') :
    number s c e = number s c' e' := by
  unfold number
  cases s with
  | false => exact h
  | true => simp only [if_true, neg_mul, h]

theorem number_eq_zero_iff {s : Bool} {c : Nat} {e : Int} : number s c e = 0 ↔ c = 0 := by
  cases s <;> simp [number, (ten_zpow_pos e).ne']

theorem number_false_pos {c : Nat} (hc : c ≠ 0) (e : Int) : 0 < number false c e := by
  have hpos : (0 : ℚ) < c := by exact_mod_cast Nat.pos_of_ne_zero hc
  exact mul_pos hpos (ten_zpow_pos e)

theorem abs_number (s : Bool) (c : Nat) (e : Int) : |number s c e| = c * 10 ^ e := by
  unfold number
  rw [abs_mul, abs_of_pos (ten_zpow_pos e)]
  cases s <;> simp

theorem number_mul_pow (s : Bool) (c k : Nat) (e : Int) :
    number s (c * 10 ^ k) e = number s c (k + e) := by
  unfold number
  rw [zpow_add₀ (by norm_num), zpow_natCast]
  cases s with
  | false =>
      rw [if_neg Bool.false_ne_true, if_neg Bool.false_ne_true]
      push_cast
      ring
  | true =>
      rw [if_pos rfl, if_pos rfl]
      push_cast
      ring

theorem hasValue_zero : zero.HasValue 0 := ⟨rfl, number_zero false 0⟩

/-- The digits of a coefficient bound its number from above. -/
theorem lt_of_length (c : Nat) (e : Int) : (c : ℚ) * 10 ^ e < 10 ^ (e + decimalLength c) := by
  rw [zpow_add₀ (by norm_num), zpow_natCast, mul_comm]
  have hc : (c : ℚ) < 10 ^ decimalLength c := by exact_mod_cast lt_pow_decimalLength c
  exact mul_lt_mul_of_pos_left hc (ten_zpow_pos e)

theorem le_of_length {c : Nat} (hc : c ≠ 0) (e : Int) :
    (10 : ℚ) ^ (e + decimalLength c - 1) ≤ c * 10 ^ e := by
  have hpos := decimalLength_pos hc
  have hexp : e + decimalLength c - 1 = e + ((decimalLength c - 1 : Nat) : Int) := by omega
  rw [hexp, zpow_add₀ (by norm_num), zpow_natCast, mul_comm]
  have hle : (10 : ℚ) ^ (decimalLength c - 1) ≤ c := by
    exact_mod_cast pow_le_of_lt_decimalLength (show decimalLength c - 1 < decimalLength c by omega)
  exact mul_le_mul_of_nonneg_right hle (ten_zpow_pos e).le

theorem lt_of_zpow_lt {a b : Int} (h : (10 : ℚ) ^ a < 10 ^ b) : a < b :=
  (zpow_lt_zpow_iff_right₀ (by norm_num)).1 h

theorem length_lt_of_lt {c : Nat} (hc : c ≠ 0) {e k : Int} (h : (c : ℚ) * 10 ^ e < 10 ^ k) :
    e + decimalLength c - 1 < k := lt_of_zpow_lt ((le_of_length hc e).trans_lt h)

theorem lt_length_of_le {c : Nat} {e k : Int} (h : (10 : ℚ) ^ k ≤ c * 10 ^ e) :
    k < e + decimalLength c := lt_of_zpow_lt (h.trans_lt (lt_of_length c e))

theorem adjusted_eq {c : Nat} (hc : c ≠ 0) (e : Int) : adjusted c e = e + decimalLength c - 1 := by
  have hpos := decimalLength_pos hc
  unfold adjusted length
  omega

theorem cast_units (s : Bool) (c : Nat) (e unit : Int) :
    (units s c e unit : ℚ) = number s (c * tenPow (e - unit).toNat) 0 := by
  unfold units number
  cases s <;> simp

/-- A number in units of a power of ten at most its own. -/
theorem units_mul (s : Bool) (c : Nat) {e unit : Int} (h : unit ≤ e) :
    (units s c e unit : ℚ) * 10 ^ unit = number s c e := by
  have hexp : e = ((e - unit).toNat : Int) + unit := by omega
  conv_rhs => rw [hexp, ← number_mul_pow]
  rw [cast_units, tenPow_eq]
  simp [number]

theorem number_natAbs (n e : Int) : number (decide (n < 0)) n.natAbs e = n * 10 ^ e := by
  unfold number
  by_cases hn : n < 0
  · rw [if_pos (decide_eq_true hn), Nat.cast_natAbs, abs_of_neg hn, Int.cast_neg, neg_neg]
  · rw [if_neg (by simpa using hn), Nat.cast_natAbs, abs_of_nonneg (Int.not_lt.1 hn)]

/-! ### Comparison -/

theorem compare_swap (x y : ℚ) : (compare x y).swap = compare y x := by
  rcases lt_trichotomy x y with h | rfl | h
  · rw [compare_lt_iff_lt.2 h, compare_gt_iff_gt.2 h]
    rfl
  · rw [compare_eq_iff_eq.2 rfl]
    rfl
  · rw [compare_gt_iff_gt.2 h, compare_lt_iff_lt.2 h]
    rfl

theorem compare_neg (x y : ℚ) : compare (-x) (-y) = compare y x := by
  rcases lt_trichotomy x y with h | rfl | h
  · rw [compare_gt_iff_gt.2 (neg_lt_neg h), compare_gt_iff_gt.2 h]
  · rw [compare_eq_iff_eq.2 rfl, compare_eq_iff_eq.2 rfl]
  · rw [compare_lt_iff_lt.2 (neg_lt_neg h), compare_lt_iff_lt.2 h]

theorem compare_cast (m n : Int) : compare (m : ℚ) n = compare m n := by
  rcases lt_trichotomy m n with h | rfl | h
  · rw [compare_lt_iff_lt.2 h, compare_lt_iff_lt.2 (Int.cast_lt.2 h)]
  · rw [compare_eq_iff_eq.2 rfl, compare_eq_iff_eq.2 rfl]
  · rw [compare_gt_iff_gt.2 h, compare_gt_iff_gt.2 (Int.cast_lt.2 h)]

theorem compare_mul_right (x y : ℚ) {z : ℚ} (hz : 0 < z) : compare (x * z) (y * z) = compare x y := by
  rcases lt_trichotomy x y with h | rfl | h
  · rw [compare_lt_iff_lt.2 h, compare_lt_iff_lt.2 (mul_lt_mul_of_pos_right h hz)]
  · rw [compare_eq_iff_eq.2 rfl, compare_eq_iff_eq.2 rfl]
  · rw [compare_gt_iff_gt.2 h, compare_gt_iff_gt.2 (mul_lt_mul_of_pos_right h hz)]

theorem number_lt_of_adjusted_lt {c₁ c₂ : Nat} {e₁ e₂ : Int} (hc₁ : c₁ ≠ 0) (hc₂ : c₂ ≠ 0)
    (h : adjusted c₁ e₁ < adjusted c₂ e₂) : number false c₁ e₁ < number false c₂ e₂ := by
  rw [adjusted_eq hc₁, adjusted_eq hc₂] at h
  have hpow : (10 : ℚ) ^ (e₁ + decimalLength c₁) ≤ 10 ^ (e₂ + decimalLength c₂ - 1) :=
    zpow_le_zpow_right₀ (by norm_num) (by omega)
  exact (lt_of_length c₁ e₁).trans_le (hpow.trans (le_of_length hc₂ e₂))

/-- Numbers without a sign are compared by their first digits, then in units of the smaller power. -/
theorem compare_magnitudes {c₁ c₂ : Nat} (hc₁ : c₁ ≠ 0) (hc₂ : c₂ ≠ 0) (e₁ e₂ : Int) :
    (match compare (adjusted c₁ e₁) (adjusted c₂ e₂) with
      | .eq => compare (units false c₁ e₁ (min e₁ e₂)) (units false c₂ e₂ (min e₁ e₂))
      | o => o) = compare (number false c₁ e₁) (number false c₂ e₂) := by
  rcases lt_trichotomy (adjusted c₁ e₁) (adjusted c₂ e₂) with h | h | h
  · rw [compare_lt_iff_lt.2 h, compare_lt_iff_lt.2 (number_lt_of_adjusted_lt hc₁ hc₂ h)]
  · rw [compare_eq_iff_eq.2 h]
    dsimp only
    rw [← compare_cast, ← compare_mul_right _ _ (ten_zpow_pos (min e₁ e₂)),
      units_mul false c₁ (min_le_left e₁ e₂), units_mul false c₂ (min_le_right e₁ e₂)]
  · rw [compare_gt_iff_gt.2 h, compare_gt_iff_gt.2 (number_lt_of_adjusted_lt hc₂ hc₁ h)]

/-- A number is zero, positive or negative as its coefficient and its sign say. -/
theorem sign_number (s : Bool) (c : Nat) (e : Int) :
    (c = 0 ∧ number s c e = 0) ∨ (c ≠ 0 ∧ s = false ∧ 0 < number s c e) ∨
      (c ≠ 0 ∧ s = true ∧ number s c e < 0) := by
  by_cases hc : c = 0
  · exact .inl ⟨hc, number_eq_zero_iff.2 hc⟩
  · cases s with
    | false => exact .inr (.inl ⟨hc, rfl, number_false_pos hc e⟩)
    | true =>
        refine .inr (.inr ⟨hc, rfl, ?_⟩)
        rw [number_true]
        exact neg_lt_zero.2 (number_false_pos hc e)

theorem compareFinite_eq (s₁ : Bool) (c₁ : Nat) (e₁ : Int) (s₂ : Bool) (c₂ : Nat) (e₂ : Int) :
    compareFinite s₁ c₁ e₁ s₂ c₂ e₂ = compare (number s₁ c₁ e₁) (number s₂ c₂ e₂) := by
  unfold compareFinite
  rcases sign_number s₁ c₁ e₁ with ⟨h₁, hx⟩ | ⟨h₁, rfl, hx⟩ | ⟨h₁, rfl, hx⟩ <;>
    rcases sign_number s₂ c₂ e₂ with ⟨h₂, hy⟩ | ⟨h₂, rfl, hy⟩ | ⟨h₂, rfl, hy⟩
  · rw [hx, hy]
    simp [h₁, h₂]
  · rw [hx, compare_lt_iff_lt.2 hy]
    simp [h₁, h₂]
    rfl
  · rw [hx, compare_gt_iff_gt.2 hy]
    simp [h₁, h₂]
    rfl
  · rw [hy, compare_gt_iff_gt.2 hx]
    simp [h₁, h₂]
    rfl
  · rw [if_neg (by simp [h₁, h₂])]
    exact compare_magnitudes h₁ h₂ e₁ e₂
  · rw [compare_gt_iff_gt.2 (hy.trans hx)]
    simp [h₁, h₂]
    rfl
  · rw [hy, compare_lt_iff_lt.2 hx]
    simp [h₁, h₂]
    rfl
  · rw [compare_lt_iff_lt.2 (hx.trans hy)]
    simp [h₁, h₂]
    rfl
  · rw [if_neg (by simp [h₁, h₂]), number_true, number_true, compare_neg, ← compare_swap]
    exact congrArg Ordering.swap (compare_magnitudes h₁ h₂ e₁ e₂)

variable {a b : Decimal} {x y : ℚ}

theorem compare?_eq (ha : a.HasValue x) (hb : b.HasValue y) : compare? a b = some (compare x y) := by
  obtain ⟨s₁, c₁, e₁, rfl, rfl⟩ := ha.exists_finite
  obtain ⟨s₂, c₂, e₂, rfl, rfl⟩ := hb.exists_finite
  exact congrArg some (compareFinite_eq s₁ c₁ e₁ s₂ c₂ e₂)

theorem equal_eq_true_iff (ha : a.HasValue x) (hb : b.HasValue y) :
    a.equal b = .ok true ↔ x = y := by
  have hcompare := compare?_eq ha hb
  obtain ⟨s₁, c₁, e₁, rfl, -⟩ := ha.exists_finite
  obtain ⟨s₂, c₂, e₂, rfl, -⟩ := hb.exists_finite
  have hequal : (finite s₁ c₁ e₁).equal (finite s₂ c₂ e₂) = .ok (some (compare x y) == some .eq) := by
    rw [← hcompare]
    rfl
  rw [hequal, Except.ok.injEq, beq_iff_eq, Option.some.injEq, compare_eq_iff_eq]

/-! ### Multiples -/

def IsMultiple (unit : Int) (q : ℚ) : Prop := ∃ k : Int, q = k * 10 ^ unit

variable {unit : Int}

theorem IsMultiple.add (hx : IsMultiple unit x) (hy : IsMultiple unit y) :
    IsMultiple unit (x + y) := by
  obtain ⟨k, rfl⟩ := hx
  obtain ⟨n, rfl⟩ := hy
  exact ⟨k + n, by push_cast; ring⟩

theorem IsMultiple.of_le (hx : IsMultiple unit x) {finer : Int} (h : finer ≤ unit) :
    IsMultiple finer x := by
  obtain ⟨k, rfl⟩ := hx
  refine ⟨k * 10 ^ (unit - finer).toNat, ?_⟩
  rw [Int.cast_mul, Int.cast_pow, Int.cast_ofNat, ← zpow_natCast, mul_assoc,
    ← zpow_add₀ (by norm_num)]
  exact congrArg (k * (10 : ℚ) ^ ·) (by omega)

theorem isMultiple_number (s : Bool) (c : Nat) {e : Int} (h : unit ≤ e) :
    IsMultiple unit (number s c e) := ⟨units s c e unit, (units_mul s c h).symm⟩

theorem IsMultiple.exists_nat {s : Bool} {c : Nat} {e : Int} (h : IsMultiple unit (number s c e)) :
    ∃ n : Nat, (c : ℚ) * 10 ^ e = n * 10 ^ unit := by
  obtain ⟨k, hk⟩ := h
  refine ⟨k.natAbs, ?_⟩
  rw [← abs_number s, hk, abs_mul, abs_of_pos (ten_zpow_pos unit), Nat.cast_natAbs, Int.cast_abs]

theorem mul_billionth (x : ℚ) : x * 10 ^ (-9 : Int) = x / 10 ^ 9 := by
  rw [zpow_neg, div_eq_mul_inv]
  norm_num

/-- A multiple that is not zero is at least one unit. -/
theorem IsMultiple.le_abs (hx : IsMultiple unit x) (h : x ≠ 0) : 10 ^ unit ≤ |x| := by
  obtain ⟨k, rfl⟩ := hx
  have hk : k ≠ 0 := by
    rintro rfl
    simp at h
  rw [abs_mul, abs_of_pos (ten_zpow_pos unit)]
  have hone : (1 : ℚ) ≤ |(k : ℚ)| := by exact_mod_cast Int.one_le_abs hk
  exact le_mul_of_one_le_left (ten_zpow_pos unit).le hone

end Appraisal.Decimal
