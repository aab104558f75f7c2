import Mathlib.Data.Nat.Log
import Appraisal.Proofs.Number.Operations

/-!
# Doubles beside a whole number

A ratio is rounded to a whole number or past it from half way on between that number and the double
below, since of the two it is the whole number that is even. So the integer part of a double that
comes from rounding is known from the ratio, and a ratio that is close to an exact number has the
integer part of that number but where the two lie on different sides of a whole one. The main
statements: `le_floor_nearest_iff` and `truncates`.
-/

namespace Appraisal.Binary

/-- Half of the distance from a whole number to the double below it. -/
def halfPlaceBelow (m : Nat) : ℚ := 2 ^ ((Nat.clog 2 m : Int) - 54)

theorem halfPlaceBelow_pos (m : Nat) : 0 < halfPlaceBelow m := two_zpow_pos _

theorem halfPlaceBelow_le {m k : Nat} (h : m ≤ 2 ^ k) : halfPlaceBelow m ≤ 2 ^ ((k : Int) - 54) := by
  have hclog : Nat.clog 2 m ≤ k := Nat.clog_le_of_le_pow h
  exact zpow_le_zpow_right₀ (by norm_num) (by omega)

theorem le_halfPlaceBelow {m k : Nat} (h : 2 ^ k < m) : 2 ^ ((k : Int) - 53) ≤ halfPlaceBelow m := by
  have hclog : k < Nat.clog 2 m := (Nat.lt_clog_iff_pow_lt one_lt_two).2 h
  exact zpow_le_zpow_right₀ (by norm_num) (by omega)

def spareBits (m : Nat) : Nat := 52 - Nat.clog 2 m

/-- The number half way on from the double below a whole number, in units of `2 ^ -(spareBits m + 2)`. -/
def midpoint (m : Nat) : Nat := m * 2 ^ (spareBits m + 2) - 1

theorem midpoint_div_eq_mul (m : Nat) : (midpoint m : ℚ) / (2 ^ (spareBits m + 2) : Nat) =
    midpoint m * 2 ^ (-(spareBits m + 2 : Nat) : Int) := by
  rw [zpow_neg, zpow_natCast, div_eq_mul_inv]
  push_cast
  rfl

section

variable {m : Nat} (hm : 0 < m) (hlt : m < 2 ^ 52)

include hm in
/-- The place of the highest bit below a whole number. -/
theorem two_zpow_clog_lt : (2 : ℚ) ^ ((Nat.clog 2 m : Int) - 1) < m ∧ (m : ℚ) ≤ 2 ^ Nat.clog 2 m := by
  have hle : m ≤ 2 ^ Nat.clog 2 m := Nat.le_pow_clog one_lt_two m
  refine ⟨?_, by exact_mod_cast hle⟩
  rcases Nat.eq_or_lt_of_le (Nat.succ_le_of_lt hm) with rfl | hone
  · rw [Nat.clog_one_right]
    norm_num
  · have hpred := Nat.pow_pred_clog_lt_self one_lt_two hone
    have hpos : 0 < Nat.clog 2 m := Nat.clog_pos one_lt_two hone
    have hcast : ((Nat.clog 2 m : Int) - 1) = ((Nat.clog 2 m).pred : Nat) := by
      rw [Nat.pred_eq_sub_one]
      omega
    rw [hcast, zpow_natCast]
    exact_mod_cast hpred

theorem roundHalfEven_two_mul_sub_one {n : Nat} (hn : 0 < n) (heven : n % 2 = 0) :
    roundHalfEven (2 * n - 1) 2 = n := by
  unfold roundHalfEven
  simp only
  rw [if_neg (by omega), if_neg (by omega)]
  omega

include hm hlt

/-! ### The midpoint below a whole number -/

omit hm in
theorem clog_add_spareBits : Nat.clog 2 m + spareBits m = 52 := by
  have hclog : Nat.clog 2 m ≤ 52 := Nat.clog_le_of_le_pow hlt.le
  unfold spareBits
  omega

omit hlt in
theorem cast_midpoint : (midpoint m : ℚ) = m * 2 ^ (spareBits m + 2) - 1 := by
  rw [midpoint, Nat.cast_sub (Nat.mul_pos hm (Nat.two_pow_pos _))]
  push_cast
  rfl

theorem midpoint_div :
    (midpoint m : ℚ) / (2 ^ (spareBits m + 2) : Nat) = m - halfPlaceBelow m := by
  have hbits := clog_add_spareBits hlt
  have hunit : (0 : ℚ) < 2 ^ (spareBits m + 2) := by positivity
  rw [cast_midpoint hm, halfPlaceBelow,
    show (Nat.clog 2 m - 54 : Int) = -(spareBits m + 2 : Nat) by omega, zpow_neg, zpow_natCast]
  push_cast
  rw [sub_div, mul_div_assoc, div_self hunit.ne', mul_one, one_div]

theorem log2_midpoint : (midpoint m).log2 = 53 := by
  have hbits := clog_add_spareBits hlt
  obtain ⟨hlow, hhigh⟩ := two_zpow_clog_lt hm
  have hbelow : (2 : ℚ) ^ 53 < m * 2 ^ (spareBits m + 2) := by
    calc (2 : ℚ) ^ 53 = 2 ^ ((Nat.clog 2 m : Int) - 1) * 2 ^ (spareBits m + 2) := by
          rw [← zpow_natCast, ← zpow_natCast, ← zpow_add₀ (by norm_num)]
          congr 1
          omega
      _ < m * 2 ^ (spareBits m + 2) := mul_lt_mul_of_pos_right hlow (by positivity)
  have habove : (m : ℚ) * 2 ^ (spareBits m + 2) ≤ 2 ^ 54 := by
    calc (m : ℚ) * 2 ^ (spareBits m + 2) ≤ 2 ^ Nat.clog 2 m * 2 ^ (spareBits m + 2) :=
          mul_le_mul_of_nonneg_right hhigh (by positivity)
      _ = 2 ^ 54 := by
          rw [← pow_add]
          congr 1
          omega
  have hbelow' : 2 ^ 53 < m * 2 ^ (spareBits m + 2) := by exact_mod_cast hbelow
  have habove' : m * 2 ^ (spareBits m + 2) ≤ 2 ^ 54 := by exact_mod_cast habove
  unfold midpoint
  rw [Nat.log2_eq_iff (by omega)]
  omega

omit hlt in
/-- With one bit less than the midpoint has, it is the whole number that remains. -/
theorem inUnits_midpoint :
    inUnits (midpoint m) (2 ^ (spareBits m + 2)) (-(spareBits m + 1 : Nat)) =
      2 * (m * 2 ^ spareBits m) := by
  have hunits : 0 < m * 2 ^ spareBits m := Nat.mul_pos hm (Nat.two_pow_pos _)
  have hmidpoint : midpoint m = 2 * (2 * (m * 2 ^ spareBits m)) - 1 := by
    rw [midpoint, pow_add]
    congr 1
    ring
  have hratio : (midpoint m : ℚ) / (2 ^ (spareBits m + 2) : Nat) =
      midpoint m / (1 : Nat) * 2 ^ (-(spareBits m + 2 : Nat) : Int) := by
    rw [Nat.cast_one, div_one, midpoint_div_eq_mul]
  rw [inUnits_eq (Nat.two_pow_pos _).ne' Nat.one_pos hratio (by omega), Nat.one_mul,
    show (-(spareBits m + 1 : Nat) - -(spareBits m + 2 : Nat) : Int).toNat = 1 by omega, pow_one,
    hmidpoint]
  exact roundHalfEven_two_mul_sub_one (by omega) (Nat.mul_mod_right 2 _)

/-- The midpoint is rounded to the whole number. -/
theorem magnitude_nearest_midpoint (negative : Bool) :
    (ofFloat (nearest negative (midpoint m) (2 ^ (spareBits m + 2)))).magnitude = m := by
  have hbits := clog_add_spareBits hlt
  have hlog := log2_midpoint hm hlt
  have hne : midpoint m ≠ 0 := by
    intro hzero
    rw [hzero] at hlog
    exact absurd hlog (by decide)
  have hden : 2 ^ (spareBits m + 2) ≠ 0 := (Nat.two_pow_pos _).ne'
  have hlast : lastPlace (midpoint m) (2 ^ (spareBits m + 2)) = -(spareBits m + 1 : Nat) := by
    unfold lastPlace leastExponent
    rw [highestPlace_eq hne hden (midpoint_div_eq_mul m), hlog]
    omega
  have hsmall : (midpoint m : ℚ) / (2 ^ (spareBits m + 2) : Nat) < 2 ^ (1022 : Int) := by
    have hbound : (m : ℚ) < 2 ^ (52 : Int) := by exact_mod_cast hlt
    have hpos := halfPlaceBelow_pos m
    rw [midpoint_div hm hlt]
    refine lt_trans ?_ (zpow_lt_zpow_right₀ one_lt_two (by norm_num : (52 : Int) < 1022))
    linarith
  rw [magnitude_nearest negative hne hden hsmall, hlast, inUnits_midpoint hm, zpow_neg,
    zpow_natCast]
  push_cast
  field_simp
  ring

omit hm in
theorem two_mul_halfPlaceBelow : 2 * halfPlaceBelow m = 2 ^ (-(spareBits m + 1 : Nat) : Int) := by
  have hbits := clog_add_spareBits hlt
  rw [halfPlaceBelow, show (-(spareBits m + 1 : Nat) : Int) = Nat.clog 2 m - 54 + 1 by omega,
    zpow_add_one₀ (by norm_num), mul_comm]

/-- A double below a whole number is at least a place below it. -/
theorem mul_two_zpow_le_sub {k : Nat} {q : Int} (hk : k < 2 ^ 53) (h : (k : ℚ) * 2 ^ q < m) :
    (k : ℚ) * 2 ^ q ≤ m - 2 * halfPlaceBelow m := by
  have hbits := clog_add_spareBits hlt
  have hunit := two_zpow_pos (-(spareBits m + 1 : Nat))
  obtain ⟨units, hunits⟩ : ∃ units, units = m * 2 ^ (spareBits m + 1) := ⟨_, rfl⟩
  have hm' : (m : ℚ) = units * 2 ^ (-(spareBits m + 1 : Nat) : Int) := by
    rw [hunits, zpow_neg, zpow_natCast]
    push_cast
    rw [mul_inv_cancel_right₀ (by positivity)]
  have hpower : 2 ^ 52 < units := by
    have hlow := (two_zpow_clog_lt hm).1
    rw [show (Nat.clog 2 m : Int) - 1 = (52 : Nat) + -(spareBits m + 1 : Nat) by omega,
      zpow_add₀ (by norm_num), zpow_natCast, hm'] at hlow
    exact_mod_cast lt_of_mul_lt_mul_right hlow hunit.le
  -- in units of the place the number is whole, and a double is whole or below a power of two
  obtain ⟨j, hj, hless⟩ : ∃ j : Nat, (k : ℚ) * 2 ^ q ≤ j * 2 ^ (-(spareBits m + 1 : Nat) : Int) ∧
      j < units := by
    rcases le_or_gt (-(spareBits m + 1 : Nat) : Int) q with hq | hq
    · have hwhole : (k : ℚ) * 2 ^ q =
          (k * 2 ^ (q + (spareBits m + 1 : Nat)).toNat : Nat) *
            2 ^ (-(spareBits m + 1 : Nat) : Int) := by
        push_cast
        rw [← zpow_natCast, mul_assoc, ← zpow_add₀ (by norm_num)]
        congr 2
        omega
      rw [hwhole, hm'] at h
      exact ⟨_, hwhole.le, by exact_mod_cast lt_of_mul_lt_mul_right h hunit.le⟩
    · refine ⟨2 ^ 52, ?_, hpower⟩
      calc (k : ℚ) * 2 ^ q ≤ 2 ^ 53 * 2 ^ (-(spareBits m + 1 : Nat) - 1 : Int) :=
            mul_le_mul (by exact_mod_cast hk.le)
              (zpow_le_zpow_right₀ (by norm_num) (by omega)) (two_zpow_pos q).le (by positivity)
        _ = (2 ^ 52 : Nat) * 2 ^ (-(spareBits m + 1 : Nat) : Int) := by
            rw [zpow_sub_one₀ (by norm_num)]
            push_cast
            ring
  have hstep : (j : ℚ) + 1 ≤ units := by exact_mod_cast hless
  rw [two_mul_halfPlaceBelow hlt, hm', ← sub_one_mul]
  exact hj.trans (mul_le_mul_of_nonneg_right (by linarith) hunit.le)

/-- A ratio reaches a whole number by rounding from the midpoint on. -/
theorem le_magnitude_nearest_iff (negative : Bool) {num den : Nat} (hden : den ≠ 0)
    (hv : (num : ℚ) / den < 2 ^ (1022 : Int)) :
    (m : ℚ) ≤ (ofFloat (nearest negative num den)).magnitude ↔
      m - halfPlaceBelow m ≤ (num : ℚ) / den := by
  have hnearest : IsNearest negative (num / den) (nearest negative num den) := by
    by_cases hnum : num = 0
    · rw [nearest, nearestBits, if_pos hnum, hnum, Nat.cast_zero, zero_div]
      exact isNearest_zero negative
    · exact isNearest_nearest negative hnum hden hv
  constructor
  · intro hle
    by_contra hless
    rw [not_le] at hless
    obtain ⟨-, hhigh⟩ := two_zpow_clog_lt hm
    have hclog : Nat.clog 2 m ≤ 52 := Nat.clog_le_of_le_pow hlt.le
    have hpos := halfPlaceBelow_pos m
    have hbelow : (num : ℚ) / den < 2 ^ ((Nat.clog 2 m : Int) - 53 + 53) := by
      rw [sub_add_cancel, zpow_natCast]
      linarith
    have hleast : leastExponent ≤ (Nat.clog 2 m : Int) - 53 := by
      unfold leastExponent
      omega
    have herror := (abs_le.1 (hnearest.error _ hleast hbelow)).2
    have hhalf : (2 : ℚ) ^ ((Nat.clog 2 m : Int) - 53) / 2 = halfPlaceBelow m := by
      rw [halfPlaceBelow, show (Nat.clog 2 m : Int) - 53 = Nat.clog 2 m - 54 + 1 by ring,
        zpow_add_one₀ (by norm_num)]
      ring
    rw [hhalf] at herror
    linarith
  · intro hle
    rw [← midpoint_div hm hlt] at hle
    rw [← magnitude_nearest_midpoint hm hlt negative]
    exact magnitude_nearest_mono (Nat.two_pow_pos _).ne' hden hle
      (nearestBits_lt_infiniteBits hden hv)

theorem le_floor_nearest_iff (negative : Bool) {num den : Nat} (hden : den ≠ 0)
    (hv : (num : ℚ) / den < 2 ^ (1022 : Int)) :
    m ≤ ⌊(ofFloat (nearest negative num den)).magnitude⌋₊ ↔
      m - halfPlaceBelow m ≤ (num : ℚ) / den := by
  rw [Nat.le_floor_iff' hm.ne', le_magnitude_nearest_iff hm hlt negative hden hv]

end

/-! ### Whole numbers beside a product -/

/-- The integer part of a product `v`, taken of its double: it is off by one where the product `s` that
is rounded lies too far on the other side of a whole number. -/
structure Truncates (v s : ℚ) (n : Nat) : Prop where
  nearby : n + 1 = ⌊v⌋₊ ∨ n = ⌊v⌋₊ ∨ n = ⌊v⌋₊ + 1
  short_iff : n + 1 = ⌊v⌋₊ ↔ s < ⌊v⌋₊ - halfPlaceBelow ⌊v⌋₊
  over_iff : n = ⌊v⌋₊ + 1 ↔ (⌊v⌋₊ + 1 : Nat) - halfPlaceBelow (⌊v⌋₊ + 1) ≤ s

section

variable {v s : ℚ} {n m : Nat}
  (hn : ∀ m : Nat, 0 < m → m < 2 ^ 52 → (m ≤ n ↔ m - halfPlaceBelow m ≤ s))
include hn

theorem le_of_le_sub (hs : |s - v| < 1 / 2 ^ 25) (hm : m < 2 ^ 52) (h : (m : ℚ) ≤ v - 1 / 2 ^ 25) :
    m ≤ n := by
  rcases Nat.eq_zero_or_pos m with rfl | hpos
  · exact Nat.zero_le n
  · rw [hn m hpos hm]
    have hhalf := halfPlaceBelow_pos m
    have hclose := (abs_lt.1 hs).1
    linarith

theorem lt_of_add_le (hs : |s - v| < 1 / 2 ^ 25) (hv : 0 ≤ v) (hm : m ≤ 2 ^ 29)
    (h : v + 1 / 2 ^ 24 ≤ m) : n < m := by
  have hpos : 0 < m := by
    have hgap : (0 : ℚ) < 1 / 2 ^ 24 := by norm_num
    exact_mod_cast lt_of_lt_of_le (by linarith : (0 : ℚ) < v + 1 / 2 ^ 24) h
  rw [← not_le, hn m hpos (hm.trans_lt (by norm_num)), not_le]
  have hhalf : halfPlaceBelow m ≤ 1 / 2 ^ 25 := by
    refine (halfPlaceBelow_le hm).trans_eq ?_
    norm_num
  have hclose := (abs_lt.1 hs).2
  norm_num at h hhalf hclose ⊢
  linarith

theorem truncates (hs : |s - v| < 1 / 2 ^ 25) (hv : 0 ≤ v) (hs0 : 0 ≤ s) (hlt : v + 2 ≤ 2 ^ 29) :
    Truncates v s n := by
  obtain ⟨w, hw⟩ : ∃ w, ⌊v⌋₊ = w := ⟨_, rfl⟩
  have hfloor := Nat.floor_le hv
  have hnext := Nat.lt_floor_add_one v
  rw [hw] at hfloor hnext
  have hsmall : w + 2 ≤ 2 ^ 29 := by
    have hcast : (w : ℚ) + 2 ≤ 2 ^ 29 := by linarith
    exact_mod_cast hcast
  have hlow : w ≤ n + 1 := by
    rcases w with _ | w
    · exact Nat.zero_le _
    · refine Nat.succ_le_succ (le_of_le_sub hn hs (by omega) ?_)
      push_cast at hfloor
      linarith
  have hhigh : n < w + 2 := by
    refine lt_of_add_le hn hs hv hsmall ?_
    push_cast
    linarith
  refine ⟨by omega, ?_, ?_⟩
  · rw [hw]
    rcases Nat.eq_zero_or_pos w with rfl | hpos
    · have hhalf := halfPlaceBelow_pos 0
      refine iff_of_false (Nat.succ_ne_zero n) (not_lt.2 ?_)
      rw [Nat.cast_zero]
      linarith
    · rw [← not_le, ← hn w hpos (by omega)]
      omega
  · rw [hw, ← hn (w + 1) (Nat.succ_pos w) (by omega)]
    omega

/-- A product of doubles that is exact does not fall short. -/
theorem floor_le_of_exact (hs : s = v) (hv : 0 ≤ v) (hlt : v < 2 ^ 52) : ⌊v⌋₊ ≤ n := by
  have hfloor := Nat.floor_le hv
  have hsmall : ⌊v⌋₊ < 2 ^ 52 := (Nat.floor_lt hv).2 (by exact_mod_cast hlt)
  rcases Nat.eq_zero_or_pos ⌊v⌋₊ with hzero | hpos
  · exact hzero ▸ Nat.zero_le n
  · rw [hn _ hpos hsmall, hs]
    have hhalf := halfPlaceBelow_pos ⌊v⌋₊
    linarith

variable {a D : Nat} (hratio : v = a / D) (hD : 0 < D)
include hratio hD

/-- A fraction whose denominator is not too great stays clear of the next whole number. -/
theorem le_floor_of_ratio (hD' : D ≤ 2 ^ 24) (hs : |s - v| < 1 / 2 ^ 25) (hlt : v + 2 ≤ 2 ^ 29) :
    n ≤ ⌊v⌋₊ := by
  have hDpos : (0 : ℚ) < D := Nat.cast_pos.2 hD
  have hv : 0 ≤ v := hratio ▸ div_nonneg (Nat.cast_nonneg a) hDpos.le
  have hfloor := Nat.floor_le hv
  have hsmall : ⌊v⌋₊ + 1 ≤ 2 ^ 29 := by
    have hcast : (⌊v⌋₊ : ℚ) + 1 ≤ 2 ^ 29 := by linarith
    exact_mod_cast hcast
  refine Nat.lt_succ_iff.1 (lt_of_add_le hn hs hv hsmall ?_)
  have hgap : (1 : ℚ) / 2 ^ 24 ≤ 1 / D := by
    refine one_div_le_one_div_of_le hDpos ?_
    exact_mod_cast hD'
  have hnext : a + 1 ≤ (⌊v⌋₊ + 1) * D := by
    rw [hratio, Nat.floor_div_eq_div, Nat.succ_le_iff]
    exact Nat.lt_mul_of_div_lt (Nat.lt_succ_self _) hD
  have hcast : (a + 1 : ℚ) / D ≤ ⌊v⌋₊ + 1 := by
    rw [div_le_iff₀ hDpos]
    exact_mod_cast hnext
  rw [add_div, ← hratio] at hcast
  push_cast
  linarith

/-- It stays clear of the whole number below as well, if it is none itself. -/
theorem floor_le_of_ratio (hD' : D ≤ 2 ^ 24) (hs : |s - v| < 1 / 2 ^ 25) (hlt : v + 2 ≤ 2 ^ 29)
    (hwhole : ∀ j : Nat, v ≠ j) : ⌊v⌋₊ ≤ n := by
  have hDpos : (0 : ℚ) < D := Nat.cast_pos.2 hD
  have hv : 0 ≤ v := hratio ▸ div_nonneg (Nat.cast_nonneg a) hDpos.le
  have hfloor := Nat.floor_le hv
  have hsmall : ⌊v⌋₊ < 2 ^ 52 := by
    rw [Nat.floor_lt hv]
    push_cast
    linarith
  refine le_of_le_sub hn hs hsmall ?_
  have hgap : (1 : ℚ) / 2 ^ 25 ≤ 1 / D := by
    refine one_div_le_one_div_of_le hDpos ?_
    exact_mod_cast hD'.trans (by norm_num)
  have hless : ⌊v⌋₊ * D + 1 ≤ a := by
    have hne : (⌊v⌋₊ : ℚ) * D ≠ a := by
      intro heq
      refine hwhole ⌊v⌋₊ ?_
      nth_rewrite 1 [hratio]
      rw [← heq, mul_div_cancel_right₀ _ hDpos.ne']
    have hle : (⌊v⌋₊ : ℚ) * D ≤ a := by
      rwa [← le_div_iff₀ hDpos, ← hratio]
    have hlt : (⌊v⌋₊ : ℚ) * D < a := lt_of_le_of_ne hle hne
    exact_mod_cast hlt
  have hcast : (⌊v⌋₊ : ℚ) ≤ (a - 1) / D := by
    rw [le_div_iff₀ hDpos, le_sub_iff_add_le]
    exact_mod_cast hless
  rw [sub_div, ← hratio] at hcast
  linarith

theorem eq_floor_or_of_ratio (hD' : D ≤ 2 ^ 24) (hs : |s - v| < 1 / 2 ^ 25) (hv : 0 ≤ v)
    (hs0 : 0 ≤ s) (hlt : v + 2 ≤ 2 ^ 29) : n = ⌊v⌋₊ ∨ (∃ j : Nat, v = j) ∧ (n : ℚ) + 1 = v := by
  have hhigh := le_floor_of_ratio hn hratio hD hD' hs hlt
  by_cases hwhole : ∃ j : Nat, v = j
  · have hnear := (truncates hn hs hv hs0 hlt).nearby
    obtain ⟨j, rfl⟩ := hwhole
    rw [Nat.floor_natCast] at hnear hhigh ⊢
    rcases hnear with hless | heq | hmore
    · exact .inr ⟨⟨j, rfl⟩, by exact_mod_cast hless⟩
    · exact .inl heq
    · omega
  · have hlow := floor_le_of_ratio hn hratio hD hD' hs hlt (fun j hj => hwhole ⟨j, hj⟩)
    exact .inl (le_antisymm hhigh hlow)

end

end Appraisal.Binary
