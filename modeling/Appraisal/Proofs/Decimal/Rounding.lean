import Mathlib.Data.Int.Log
import Appraisal.Proofs.Decimal.Value
import Appraisal.Proofs.Number.Monotone

/-!
# Rounding of decimals

What an operation on finite decimals gives depends on the exact result alone: the nearest number with
twenty-eight digits whose last place is not below the least one, of two the one with the even last
digit. It is an overflow from the least number on that takes an exponent too large. The main
statements: `isRounded_add` and `isRounded_sub`.
-/

namespace Appraisal

namespace Binary

/-! ### Nearest integers -/

def nearestEven (q : ℚ) : Nat := roundHalfEven q.num.natAbs q.den

variable {p q : ℚ}

theorem natAbs_num_div_den (hq : 0 ≤ q) : (q.num.natAbs : ℚ) / q.den = q := by
  rw [Nat.cast_natAbs, abs_of_nonneg (Rat.num_nonneg.2 hq), Rat.num_div_den]

theorem nearestEven_div (num : Nat) {den : Nat} (hden : den ≠ 0) :
    nearestEven (num / den) = roundHalfEven num den :=
  roundHalfEven_congr (Rat.den_ne_zero _) hden
    (natAbs_num_div_den (div_nonneg (Nat.cast_nonneg _) (Nat.cast_nonneg _)))

theorem nearestEven_natCast (k : Nat) : nearestEven k = k := by
  have h := roundHalfEven_mul k Nat.one_pos
  rwa [Nat.mul_one, ← nearestEven_div k one_ne_zero, Nat.cast_one, div_one] at h

theorem abs_nearestEven_sub_le (hq : 0 ≤ q) : |(nearestEven q : ℚ) - q| ≤ 1 / 2 := by
  have h := abs_roundHalfEven_sub_le q.num.natAbs (Rat.den_ne_zero q)
  rwa [natAbs_num_div_den hq] at h

theorem nearestEven_mono (hp : 0 ≤ p) (h : p ≤ q) : nearestEven p ≤ nearestEven q := by
  apply roundHalfEven_mono (Rat.den_ne_zero p) (Rat.den_ne_zero q)
  rwa [natAbs_num_div_den hp, natAbs_num_div_den (hp.trans h)]

/-- Two numbers with no half between them are rounded to the same integer. -/
theorem nearestEven_eq_of_no_half (hp : 0 ≤ p) (hpq : p ≤ q)
    (h : ∀ n : Nat, p ≤ n + 1 / 2 → q < n + 1 / 2) : nearestEven p = nearestEven q := by
  by_contra hne
  have hlt : nearestEven p + 1 ≤ nearestEven q := (nearestEven_mono hp hpq).lt_of_ne hne
  have hlt' : (nearestEven p : ℚ) + 1 ≤ nearestEven q := by exact_mod_cast hlt
  have hlower := (abs_le.1 (abs_nearestEven_sub_le hp)).1
  have hupper := (abs_le.1 (abs_nearestEven_sub_le (hp.trans hpq))).2
  have hhalf := h (nearestEven p) (by linarith)
  linarith

end Binary

namespace Decimal

open Binary

/-! ### Places -/

def lastExponent (q : ℚ) : Int := max (Int.log 10 |q| + 1 - precision) tinyExponent

/-- A number with twenty-eight digits, a half going to the even last digit. -/
def rounded (q : ℚ) : ℚ :=
  number (decide (q < 0)) (nearestEven (|q| / 10 ^ lastExponent q)) (lastExponent q)

def overflowLimit : ℚ := 10 ^ (greatestExponent + 1)

section

variable {p q : ℚ}

theorem lastExponent_neg (q : ℚ) : lastExponent (-q) = lastExponent q := by
  rw [lastExponent, abs_neg, lastExponent]

theorem tinyExponent_le (q : ℚ) : tinyExponent ≤ lastExponent q := le_max_right _ _

theorem zpow_log_le (hq : q ≠ 0) : (10 : ℚ) ^ Int.log 10 |q| ≤ |q| :=
  Int.zpow_log_le_self (by norm_num) (abs_pos.2 hq)

theorem lt_zpow_log (q : ℚ) : |q| < (10 : ℚ) ^ (Int.log 10 |q| + 1) :=
  Int.lt_zpow_succ_log_self (by norm_num) _

/-- A number has at most twenty-eight digits before its last place. -/
theorem abs_lt_zpow_lastExponent (q : ℚ) : |q| < 10 ^ (lastExponent q + precision) := by
  refine (lt_zpow_log q).trans_le (zpow_le_zpow_right₀ (by norm_num) ?_)
  have := le_max_left (Int.log 10 |q| + 1 - precision) tinyExponent
  unfold lastExponent
  omega

theorem abs_div_nonneg (q : ℚ) (e : Int) : 0 ≤ |q| / 10 ^ e :=
  div_nonneg (abs_nonneg q) (ten_zpow_pos e).le

theorem log_eq_of_mem {k : Int} (hlow : (10 : ℚ) ^ k ≤ |q|) (hhigh : |q| < 10 ^ (k + 1)) :
    Int.log 10 |q| = k := by
  have hpos : 0 < |q| := (ten_zpow_pos k).trans_le hlow
  have hle : k ≤ Int.log 10 |q| := (Int.zpow_le_iff_le_log (by norm_num) hpos).1 hlow
  have hlt : Int.log 10 |q| < k + 1 := (Int.lt_zpow_iff_log_lt (by norm_num) hpos).1 hhigh
  omega

/-- Above the least place a number has just as many digits as it can have. -/
theorem zpow_le_abs_of_tinyExponent_lt (hq : q ≠ 0) (h : tinyExponent < lastExponent q) :
    (10 : ℚ) ^ (lastExponent q + precision - 1) ≤ |q| := by
  refine le_trans (zpow_le_zpow_right₀ (by norm_num) ?_) (zpow_log_le hq)
  unfold lastExponent at *
  omega

theorem lastExponent_le_of_lt (hq : q ≠ 0) {unit : Int} (hunit : tinyExponent ≤ unit)
    (h : |q| < 10 ^ (unit + precision)) : lastExponent q ≤ unit := by
  have hlog := lt_of_zpow_lt ((zpow_log_le hq).trans_lt h)
  unfold lastExponent
  omega

/-! ### Rounded numbers -/

theorem rounded_zero : rounded 0 = 0 := by
  have h := nearestEven_natCast 0
  rw [Nat.cast_zero] at h
  rw [rounded, abs_zero, zero_div, h, number_zero]

theorem rounded_neg (q : ℚ) : rounded (-q) = -rounded q := by
  unfold rounded
  rw [lastExponent_neg, abs_neg]
  rcases lt_trichotomy q 0 with h | rfl | h
  · rw [decide_eq_false (by linarith), decide_eq_true h, number_true, neg_neg]
  · have h := nearestEven_natCast 0
    rw [Nat.cast_zero] at h
    rw [abs_zero, zero_div, h, number_zero, number_zero, neg_zero]
  · rw [decide_eq_true (by linarith), decide_eq_false (by linarith), number_true]

theorem abs_rounded (q : ℚ) :
    |rounded q| = nearestEven (|q| / 10 ^ lastExponent q) * 10 ^ lastExponent q :=
  abs_number _ _ _

theorem rounded_of_nonneg (hq : 0 ≤ q) :
    rounded q = nearestEven (q / 10 ^ lastExponent q) * 10 ^ lastExponent q := by
  unfold rounded
  rw [decide_eq_false (not_lt.2 hq), abs_of_nonneg hq]
  rfl

theorem isMultiple_lastExponent_rounded (q : ℚ) : IsMultiple (lastExponent q) (rounded q) :=
  isMultiple_number _ _ le_rfl

/-- Rounding moves a number by at most half a unit of its last place. -/
theorem abs_rounded_sub_le (q : ℚ) : |rounded q - q| ≤ 10 ^ lastExponent q / 2 := by
  wlog hq : 0 ≤ q generalizing q
  · have h := this (-q) (by linarith)
    rwa [rounded_neg, lastExponent_neg, ← neg_sub', abs_neg] at h
  · have hpos := ten_zpow_pos (lastExponent q)
    have herror := abs_nearestEven_sub_le (div_nonneg hq hpos.le)
    have hsplit : rounded q - q =
        (nearestEven (q / 10 ^ lastExponent q) - q / 10 ^ lastExponent q) * 10 ^ lastExponent q := by
      rw [rounded_of_nonneg hq, sub_mul, div_mul_cancel₀ _ hpos.ne']
    rw [hsplit, abs_mul, abs_of_pos hpos]
    calc _ ≤ 1 / 2 * (10 : ℚ) ^ lastExponent q := mul_le_mul_of_nonneg_right herror hpos.le
      _ = 10 ^ lastExponent q / 2 := by ring

theorem rounded_of_isMultiple (h : IsMultiple (lastExponent q) q) : rounded q = q := by
  obtain ⟨k, hk⟩ := h
  have hpos := ten_zpow_pos (lastExponent q)
  have hunits : |q| / 10 ^ lastExponent q = (k.natAbs : ℚ) := by
    rw [div_eq_iff hpos.ne', Nat.cast_natAbs, Int.cast_abs]
    conv_lhs => rw [hk, abs_mul, abs_of_pos hpos]
  have hsign : (q < 0) = (k < 0) := by
    rw [hk, mul_neg_iff]
    simp [hpos, hpos.not_gt]
  unfold rounded
  rw [hunits, nearestEven_natCast]
  simp only [hsign]
  rw [number_natAbs, ← hk]

/-- A number that twenty-eight digits hold is kept. -/
theorem rounded_of_fits {unit : Int} (hunit : tinyExponent ≤ unit) (h : IsMultiple unit q)
    (hlt : |q| < 10 ^ (unit + precision)) : rounded q = q := by
  by_cases hq : q = 0
  · rw [hq, rounded_zero]
  · exact rounded_of_isMultiple (h.of_le (lastExponent_le_of_lt hq hunit hlt))

theorem rounded_zpow {k : Int} (hk : tinyExponent ≤ k) : rounded ((10 : ℚ) ^ k) = 10 ^ k := by
  refine rounded_of_fits hk ⟨1, by norm_num⟩ ?_
  rw [abs_of_pos (ten_zpow_pos k)]
  exact zpow_lt_zpow_right₀ (by norm_num) (by unfold precision; omega)

/-- What is written with some places keeps to them. -/
theorem IsMultiple.rounded {unit : Int} (h : IsMultiple unit q) :
    IsMultiple unit (rounded q) := by
  rcases le_total (lastExponent q) unit with hle | hle
  · rwa [rounded_of_isMultiple (h.of_le hle)]
  · exact (isMultiple_lastExponent_rounded q).of_le hle

theorem nearestEven_lastExponent_le (q : ℚ) :
    nearestEven (|q| / 10 ^ lastExponent q) ≤ 10 ^ precision := by
  rw [← nearestEven_natCast (10 ^ precision)]
  apply nearestEven_mono (abs_div_nonneg q _)
  rw [div_le_iff₀ (ten_zpow_pos _), Nat.cast_pow, Nat.cast_ofNat, ← zpow_natCast,
    ← zpow_add₀ (by norm_num), add_comm]
  exact (abs_lt_zpow_lastExponent q).le

/-- Rounding keeps the order of magnitudes. -/
theorem abs_rounded_mono (h : |p| ≤ |q|) : |rounded p| ≤ |rounded q| := by
  by_cases hp : p = 0
  · rw [hp, rounded_zero, abs_zero]
    exact abs_nonneg _
  · have hq : q ≠ 0 := fun hzero => hp (abs_nonpos_iff.1 (by rwa [hzero, abs_zero] at h))
    have hlast : lastExponent p ≤ lastExponent q := by
      have := Int.log_mono_right (b := 10) (abs_pos.2 hp) h
      unfold lastExponent
      omega
    rw [abs_rounded, abs_rounded]
    rcases hlast.eq_or_lt with heq | hlt
    · rw [heq]
      refine mul_le_mul_of_nonneg_right (Nat.cast_le.2 ?_) (ten_zpow_pos _).le
      exact nearestEven_mono (abs_div_nonneg p _)
        (div_le_div_of_nonneg_right h (ten_zpow_pos _).le)
    · -- the power of ten between them bounds both
      have hupper : (nearestEven (|p| / 10 ^ lastExponent p) : ℚ) ≤ 10 ^ precision := by
        exact_mod_cast nearestEven_lastExponent_le p
      have hpower := zpow_le_abs_of_tinyExponent_lt hq ((tinyExponent_le p).trans_lt hlt)
      have hlower : 10 ^ (precision - 1) ≤ nearestEven (|q| / 10 ^ lastExponent q) := by
        rw [← nearestEven_natCast (10 ^ (precision - 1))]
        apply nearestEven_mono (Nat.cast_nonneg _)
        rw [le_div_iff₀ (ten_zpow_pos _), Nat.cast_pow, Nat.cast_ofNat, ← zpow_natCast,
          ← zpow_add₀ (by norm_num)]
        refine le_trans (zpow_le_zpow_right₀ (by norm_num) ?_) hpower
        unfold precision
        omega
      calc (nearestEven (|p| / 10 ^ lastExponent p) : ℚ) * 10 ^ lastExponent p
          ≤ 10 ^ precision * 10 ^ lastExponent p :=
            mul_le_mul_of_nonneg_right hupper (ten_zpow_pos _).le
        _ = 10 ^ (lastExponent p + precision) := by
            rw [zpow_add₀ (by norm_num), zpow_natCast, mul_comm]
        _ ≤ 10 ^ (lastExponent q + (precision - 1 : Nat)) :=
            zpow_le_zpow_right₀ (by norm_num) (by unfold precision; omega)
        _ = 10 ^ (precision - 1) * 10 ^ lastExponent q := by
            rw [zpow_add₀ (by norm_num), zpow_natCast, mul_comm]
        _ ≤ nearestEven (|q| / 10 ^ lastExponent q) * 10 ^ lastExponent q :=
            mul_le_mul_of_nonneg_right (by exact_mod_cast hlower) (ten_zpow_pos _).le

theorem rounded_nonneg (hq : 0 ≤ q) : 0 ≤ rounded q := by
  rw [rounded_of_nonneg hq]
  exact mul_nonneg (Nat.cast_nonneg _) (ten_zpow_pos _).le

theorem rounded_mono (hp : 0 ≤ p) (h : p ≤ q) : rounded p ≤ rounded q := by
  have hmono := @abs_rounded_mono p q (by rwa [abs_of_nonneg hp, abs_of_nonneg (hp.trans h)])
  rwa [abs_of_nonneg (rounded_nonneg hp), abs_of_nonneg (rounded_nonneg (hp.trans h))] at hmono

theorem le_abs_rounded {k : Int} (hk : tinyExponent ≤ k) (h : 10 ^ k ≤ |q|) :
    10 ^ k ≤ |rounded q| := by
  have hmono := @abs_rounded_mono (10 ^ k) q (by rwa [abs_of_pos (ten_zpow_pos k)])
  rwa [rounded_zpow hk, abs_of_pos (ten_zpow_pos k)] at hmono

theorem rounded_rounded (q : ℚ) : rounded (rounded q) = rounded q := by
  have hle : |rounded q| ≤ 10 ^ (lastExponent q + precision) := by
    have hupper : (nearestEven (|q| / 10 ^ lastExponent q) : ℚ) ≤ 10 ^ precision := by
      exact_mod_cast nearestEven_lastExponent_le q
    rw [abs_rounded, zpow_add₀ (by norm_num), zpow_natCast, mul_comm]
    exact mul_le_mul_of_nonneg_left hupper (ten_zpow_pos _).le
  rcases hle.lt_or_eq with hlt | heq
  · exact rounded_of_fits (tinyExponent_le q) (isMultiple_lastExponent_rounded q) hlt
  · -- the digits have carried into a power of ten
    have hplace : tinyExponent ≤ lastExponent q + precision := by
      have := tinyExponent_le q
      omega
    rcases eq_or_eq_neg_of_abs_eq heq with hpower | hpower
    · rw [hpower, rounded_zpow hplace]
    · rw [hpower, rounded_neg, rounded_zpow hplace]

/-- So many units of a power of ten bound what is rounded when they bound the number. -/
theorem abs_rounded_le {k : Nat} {unit : Int} (hunit : tinyExponent ≤ unit)
    (hk : k < 10 ^ precision) (h : |q| ≤ k * 10 ^ unit) : |rounded q| ≤ k * 10 ^ unit := by
  have hk' : (k : ℚ) < 10 ^ precision := by exact_mod_cast hk
  have hnonneg : (0 : ℚ) ≤ k * 10 ^ unit := mul_nonneg (Nat.cast_nonneg k) (ten_zpow_pos unit).le
  have hkept : rounded ((k : ℚ) * 10 ^ unit) = k * 10 ^ unit := by
    refine rounded_of_fits hunit ⟨k, by simp⟩ ?_
    rw [abs_of_nonneg hnonneg, zpow_add₀ (by norm_num), zpow_natCast, mul_comm]
    exact mul_lt_mul_of_pos_left hk' (ten_zpow_pos unit)
  have hmono := @abs_rounded_mono q (k * 10 ^ unit) (by rwa [abs_of_nonneg hnonneg])
  rwa [hkept, abs_of_nonneg hnonneg] at hmono

/-- Half a unit of the last of twenty-eight digits, as a share. -/
def roundoff : ℚ := 1 / (2 * 10 ^ 27)

/-- A number that is written with some places is moved by a small share of itself. -/
theorem IsMultiple.abs_rounded_sub_le {unit : Int} (hunit : tinyExponent ≤ unit)
    (h : IsMultiple unit q) : |Decimal.rounded q - q| ≤ roundoff * |q| := by
  by_cases hq : q = 0
  · rw [hq, rounded_zero, sub_zero, abs_zero, mul_zero]
  · rcases le_or_gt (lastExponent q) unit with hle | hlt
    · rw [rounded_of_isMultiple (h.of_le hle), sub_self, abs_zero]
      exact mul_nonneg (by norm_num [roundoff]) (abs_nonneg q)
    · have hpower := zpow_le_abs_of_tinyExponent_lt hq (hunit.trans_lt hlt)
      refine (Decimal.abs_rounded_sub_le q).trans ?_
      rw [show lastExponent q + (precision : Int) - 1 = lastExponent q + (27 : Nat) by
        unfold precision; push_cast; ring, zpow_add₀ (by norm_num), zpow_natCast] at hpower
      unfold roundoff
      linarith

end

/-! ### Results -/

/-- The outcome of an operation with an exact result: that is rounded, or an overflow when it is then
too large. -/
inductive IsRounded : Except DecimalError Decimal → ℚ → Prop
  | ok {d : Decimal} {q : ℚ} (hd : d.HasValue (rounded q)) (h : |rounded q| < overflowLimit) :
      IsRounded (.ok d) q
  | overflow {q : ℚ} (h : overflowLimit ≤ |rounded q|) : IsRounded (.error .overflow) q

theorem IsRounded.congr {r : Except DecimalError Decimal} {p q : ℚ} (h : IsRounded r p)
    (hpq : rounded p = rounded q) : IsRounded r q := by
  cases h with
  | ok hd hlt => exact .ok (hpq ▸ hd) (hpq ▸ hlt)
  | overflow hle => exact .overflow (hpq ▸ hle)

theorem IsRounded.eq_ok {r : Except DecimalError Decimal} {q : ℚ} (h : IsRounded r q)
    (hlt : |rounded q| < overflowLimit) : ∃ d, r = .ok d ∧ d.HasValue (rounded q) := by
  cases h with
  | ok hd _ => exact ⟨_, rfl, hd⟩
  | overflow hle => exact absurd hlt (not_lt.2 hle)

theorem IsRounded.eq_overflow {r : Except DecimalError Decimal} {q : ℚ} (h : IsRounded r q)
    (hle : overflowLimit ≤ |rounded q|) : r = .error .overflow := by
  cases h with
  | ok _ hlt => exact absurd hlt (not_lt.2 hle)
  | overflow _ => rfl

section

variable {s : Bool} {c : Nat} {e : Int} (hc : c ≠ 0)
include hc

theorem lastExponent_number :
    lastExponent (number s c e) = max (e + decimalLength c - precision) tinyExponent := by
  have hlog : Int.log 10 |number s c e| = e + decimalLength c - 1 := by
    apply log_eq_of_mem <;> rw [abs_number]
    · exact le_of_length hc e
    · rw [sub_add_cancel]
      exact lt_of_length c e
  rw [lastExponent, hlog, sub_add_cancel]

theorem rounded_number {place : Int} (hplace : lastExponent (number s c e) = place) {shift : Nat}
    (hshift : e + shift = place) :
    rounded (number s c e) = number s (roundHalfEven c (tenPow shift)) place := by
  have hsign : decide (number s c e < 0) = s := by
    rcases sign_number s c e with ⟨hzero, -⟩ | ⟨-, rfl, hpos⟩ | ⟨-, rfl, hneg⟩
    · exact absurd hzero hc
    · exact decide_eq_false hpos.not_gt
    · exact decide_eq_true hneg
  have hunits : |number s c e| / 10 ^ place = c / (tenPow shift : Nat) := by
    rw [abs_number, ← hshift, zpow_add₀ (by norm_num), zpow_natCast, tenPow_eq, Nat.cast_pow,
      Nat.cast_ofNat, mul_comm, mul_div_mul_left _ _ (ten_zpow_pos e).ne']
  rw [rounded, hplace, hsign, hunits, nearestEven_div c (tenPow_pos shift).ne']

end

theorem roundHalfEven_of_small {c shift : Nat} (h : decimalLength c + 1 < shift) :
    roundHalfEven c (tenPow shift) = 0 := by
  have hlt : c < 10 ^ decimalLength c := lt_pow_decimalLength c
  have hle : 10 ^ decimalLength c * 10 ≤ tenPow shift := by
    rw [← Nat.pow_succ]
    exact Nat.pow_le_pow_right (by decide) h.le
  unfold roundHalfEven
  simp only
  rw [Nat.mod_eq_of_lt (by omega), Nat.div_eq_of_lt (by omega), if_pos (by omega)]

/-- A coefficient that is rounded up to one digit more loses a zero. -/
theorem isRounded_carry {q : ℚ} {s : Bool} {r : Nat} {place : Int} (hplace : place ≤ topExponent)
    (hr : r ≤ 10 ^ precision) (hq : rounded q = number s r place) :
    IsRounded
      (if precision < decimalLength r then
        if topExponent < place + 1 then .error .overflow else .ok (finite s (r / 10) (place + 1))
      else .ok (finite s r place)) q := by
  have hlimit : overflowLimit = 10 ^ (precision + topExponent) := rfl
  have habs : |rounded q| = r * 10 ^ place := by rw [hq, abs_number]
  by_cases hlong : precision < decimalLength r
  · obtain rfl : r = 10 ^ precision := le_antisymm hr (pow_le_of_lt_decimalLength hlong)
    rw [if_pos hlong]
    rw [Nat.cast_pow, Nat.cast_ofNat, ← zpow_natCast, ← zpow_add₀ (by norm_num)] at habs
    by_cases htop : topExponent < place + 1
    · rw [if_pos htop]
      refine .overflow ?_
      rw [habs, hlimit]
      exact zpow_le_zpow_right₀ (by norm_num) (by omega)
    · rw [if_neg htop]
      refine .ok ?_ ?_
      · rw [hq, show 10 ^ precision = 10 ^ precision / 10 * 10 ^ 1 from rfl, number_mul_pow,
          show ((1 : Nat) : Int) + place = place + 1 by ring]
        exact hasValue_finite _ _ _
      · rw [habs, hlimit]
        exact zpow_lt_zpow_right₀ (by norm_num) (by omega)
  · rw [if_neg hlong]
    refine .ok (hq ▸ hasValue_finite _ _ _) ?_
    rw [habs, hlimit]
    refine (lt_of_length r place).trans_le (zpow_le_zpow_right₀ (by norm_num) ?_)
    omega

theorem isRounded_settle (s : Bool) (c : Nat) (e : Int) :
    IsRounded (settle s c e) (number s c e) := by
  have hlimit : overflowLimit = 10 ^ (precision + topExponent) := rfl
  unfold settle
  by_cases hc : c = 0
  · rw [if_pos hc, hc, number_zero]
    refine .ok ⟨rfl, ?_⟩ ?_
    · rw [rounded_zero]
      exact number_zero s _
    · rw [rounded_zero, abs_zero]
      exact ten_zpow_pos _
  · have hlast := lastExponent_number (s := s) (e := e) hc
    have habs := abs_number s c e
    rw [if_neg hc]
    simp only
    generalize hneeded : e + (decimalLength c : Int) - precision = needed at *
    by_cases htop : topExponent < needed
    · rw [if_pos htop]
      refine .overflow (le_abs_rounded (by decide) ?_)
      rw [habs]
      refine le_trans (zpow_le_zpow_right₀ (by norm_num) ?_) (le_of_length hc e)
      unfold topExponent at htop
      omega
    · rw [if_neg htop]
      have hplace : max needed tinyExponent ≤ topExponent :=
        max_le (Int.not_lt.1 htop) (by decide)
      generalize max needed tinyExponent = place at *
      by_cases hfits : place ≤ e
      · rw [if_pos hfits]
        have hkept : rounded (number s c e) = number s c e :=
          rounded_of_isMultiple (hlast ▸ isMultiple_number s c hfits)
        refine .ok (hkept.symm ▸ hasValue_finite s c e) ?_
        rw [hkept, habs, hlimit]
        refine (lt_of_length c e).trans_le (zpow_le_zpow_right₀ (by norm_num) ?_)
        omega
      · rw [if_neg hfits]
        obtain ⟨shift, hshift⟩ : ∃ shift : Nat, place - e = shift := ⟨(place - e).toNat, by omega⟩
        have hrounded : (if decimalLength c + 1 < shift then 0
            else roundHalfEven c (tenPow shift)) = roundHalfEven c (tenPow shift) := by
          split
          · rename_i hsmall
            exact (roundHalfEven_of_small hsmall).symm
          · rfl
        have hq : rounded (number s c e) = number s (roundHalfEven c (tenPow shift)) place :=
          rounded_number hc hlast (by omega)
        rw [hshift, Int.toNat_natCast, hrounded]
        refine isRounded_carry hplace ?_ hq
        have hle := nearestEven_lastExponent_le (number s c e)
        rwa [← Nat.cast_le (α := ℚ), ← mul_le_mul_iff_left₀ (ten_zpow_pos _), ← abs_rounded, hq,
          hlast, abs_number, mul_le_mul_iff_left₀ (ten_zpow_pos _), Nat.cast_le] at hle

theorem isRounded_settleInt (n e : Int) : IsRounded (settleInt n e) (n * 10 ^ e) :=
  number_natAbs n e ▸ isRounded_settle _ _ e

/-! ### Traces -/

/-- Half a digit above the place of a trace, in which the halves of the last places are counted. -/
def cell (least : Int) : ℚ := 5 * 10 ^ least

theorem cell_pos (least : Int) : 0 < cell least := mul_pos (by norm_num) (ten_zpow_pos least)

theorem ten_zpow_eq_cell {least k : Int} (h : least < k) :
    (10 : ℚ) ^ k = (2 * 10 ^ (k - least - 1).toNat : Nat) * cell least := by
  have hsplit : (10 : ℚ) ^ k = 10 ^ ((k - least - 1).toNat + 1) * 10 ^ least := by
    rw [← zpow_natCast, ← zpow_add₀ (by norm_num)]
    exact congrArg _ (by push_cast; omega)
  rw [hsplit, cell]
  push_cast
  ring

section

variable {least : Int} {p q : ℚ}

/-- Above their lowest twenty-eight digits, numbers between the same two neighbouring cells are
rounded alike. -/
theorem rounded_eq_of_no_cell (hp : 10 ^ (least + precision) ≤ p) (hpq : p ≤ q)
    (hcell : ∀ k : Nat, p ≤ k * cell least → q < k * cell least) : rounded p = rounded q := by
  have hpos : 0 < p := (ten_zpow_pos _).trans_le hp
  have hpos' : 0 < q := hpos.trans_le hpq
  have hlow : least + precision ≤ Int.log 10 |p| := by
    rw [abs_of_pos hpos]
    exact (Int.zpow_le_iff_le_log (by norm_num) hpos).1 hp
  have hprecision : precision = 28 := rfl
  -- a power of ten is a multiple of the cell, so none stands between the two
  have hlog : Int.log 10 |p| = Int.log 10 |q| := by
    apply le_antisymm
    · exact Int.log_mono_right (abs_pos.2 hpos.ne')
        (by rwa [abs_of_pos hpos, abs_of_pos hpos'])
    · by_contra hlt
      have hleast : least < Int.log 10 |q| := by omega
      have hbelow : 10 ^ Int.log 10 |q| ≤ q := (zpow_log_le hpos'.ne').trans_eq (abs_of_pos hpos')
      rw [ten_zpow_eq_cell hleast] at hbelow
      have habove : p ≤ 10 ^ Int.log 10 |q| := by
        refine ((le_abs_self p).trans_lt (lt_zpow_log p)).le.trans ?_
        exact zpow_le_zpow_right₀ (by norm_num) (by omega)
      rw [ten_zpow_eq_cell hleast] at habove
      exact absurd (hcell _ habove) (not_lt.2 hbelow)
  have hlast : lastExponent p = lastExponent q := by rw [lastExponent, hlog, lastExponent]
  have hplace : least < lastExponent q := by
    rw [← hlast]
    unfold lastExponent
    omega
  rw [rounded_of_nonneg hpos.le, rounded_of_nonneg hpos'.le, hlast]
  -- nor does a half of the last place
  congr 2
  refine nearestEven_eq_of_no_half (div_nonneg hpos.le (ten_zpow_pos _).le)
    (div_le_div_of_nonneg_right hpq (ten_zpow_pos _).le) (fun n hn => ?_)
  have hhalf : ((n : ℚ) + 1 / 2) * 10 ^ lastExponent q =
      ((2 * n + 1) * 10 ^ (lastExponent q - least - 1).toNat : Nat) * cell least := by
    rw [ten_zpow_eq_cell hplace]
    push_cast
    ring
  rw [div_le_iff₀ (ten_zpow_pos _), hhalf] at hn
  rw [div_lt_iff₀ (ten_zpow_pos _), hhalf]
  exact hcell _ hn

theorem rounded_eq_of_mem_cell {j : Int} (hp : 10 ^ (least + precision) ≤ |p|)
    (hq : 10 ^ (least + precision) ≤ |q|) (hlowp : j * cell least < p)
    (hhighp : p < (j + 1) * cell least) (hlowq : j * cell least < q)
    (hhighq : q < (j + 1) * cell least) : rounded p = rounded q := by
  have hpos := cell_pos least
  wlog hj : 0 ≤ j generalizing j p q
  · have hneg := @this (-p) (-q) (-j - 1) (by rwa [abs_neg]) (by rwa [abs_neg])
      (by push_cast; linarith) (by push_cast; linarith) (by push_cast; linarith)
      (by push_cast; linarith) (by omega)
    rwa [rounded_neg, rounded_neg, neg_inj] at hneg
  · wlog hpq : p ≤ q generalizing p q
    · exact (this hq hp hlowq hhighq hlowp hhighp (le_of_not_ge hpq)).symm
    · have hbase : (0 : ℚ) ≤ j * cell least := mul_nonneg (Int.cast_nonneg hj) hpos.le
      rw [abs_of_pos (hbase.trans_lt hlowp)] at hp
      refine rounded_eq_of_no_cell hp hpq (fun k hk => ?_)
      have hlt := lt_of_mul_lt_mul_right (hlowp.trans_le hk) hpos.le
      have hstep : (j : ℚ) + 1 ≤ k := by
        have : j + 1 ≤ (k : Int) := by
          have : j < (k : Int) := by exact_mod_cast hlt
          omega
        exact_mod_cast this
      exact hhighq.trans_le (mul_le_mul_of_nonneg_right hstep hpos.le)

/-- What is added to a number far above it decides at most between its neighbours, so only its sign
counts. -/
theorem rounded_add_trace {x : ℚ} {s : Bool} {c c' : Nat} {e e' : Int}
    (hx : IsMultiple (least + 1) x) (hlarge : 10 ^ (least + precision + 1) ≤ |x|)
    (hc : c ≠ 0) (hc' : c' ≠ 0) (hle : (c : ℚ) * 10 ^ e ≤ 10 ^ least)
    (hle' : (c' : ℚ) * 10 ^ e' ≤ 10 ^ least) :
    rounded (x + number s c e) = rounded (x + number s c' e') := by
  have hunit := ten_zpow_pos least
  have hpos : 0 < (c : ℚ) * 10 ^ e := number_false_pos hc e
  have hpos' : 0 < (c' : ℚ) * 10 ^ e' := number_false_pos hc' e'
  have hone : (10 : ℚ) ^ least ≤ 10 ^ (least + precision) :=
    zpow_le_zpow_right₀ (by norm_num) (by omega)
  rw [zpow_add_one₀ (by norm_num)] at hlarge
  have hfar {y : ℚ} (hy : |y| ≤ 10 ^ least) : 10 ^ (least + precision) ≤ |x + y| := by
    have := abs_sub_abs_le_abs_sub x (-y)
    rw [abs_neg, sub_neg_eq_add] at this
    linarith
  obtain ⟨k, rfl⟩ := hx
  have hcells : (k : ℚ) * 10 ^ (least + 1) = (2 * k : Int) * cell least := by
    rw [zpow_add_one₀ (by norm_num), cell]
    push_cast
    ring
  have hy := hfar (by rwa [abs_number s c e])
  have hy' := hfar (by rwa [abs_number s c' e'])
  rw [hcells] at hy hy' ⊢
  cases s with
  | false =>
      have hnumber (c : Nat) (e : Int) : number false c e = c * 10 ^ e := rfl
      rw [hnumber] at hy hy' ⊢
      rw [hnumber]
      apply rounded_eq_of_mem_cell (j := 2 * k) hy hy' <;> unfold cell <;> push_cast <;> linarith
  | true =>
      have hnumber (c : Nat) (e : Int) : number true c e = -(c * 10 ^ e) := number_true c e
      rw [hnumber] at hy hy' ⊢
      rw [hnumber]
      apply rounded_eq_of_mem_cell (j := 2 * k - 1) hy hy' <;> unfold cell <;> push_cast <;> linarith

end

/-! ### Sums and differences -/

theorem isRounded_addAligned {s₁ s₂ : Bool} {c₁ c₂ : Nat} {e₁ e₂ : Int} (hc₁ : c₁ ≠ 0)
    (hc₂ : c₂ ≠ 0) (he : e₂ ≤ e₁) :
    IsRounded (addAligned s₁ c₁ e₁ s₂ c₂ e₂) (number s₁ c₁ e₁ + number s₂ c₂ e₂) := by
  have hsum {c₂ : Nat} {e₂ : Int} (he : e₂ ≤ e₁) : IsRounded
      (settleInt (units s₁ c₁ e₁ e₂ + units s₂ c₂ e₂ e₂) e₂) (number s₁ c₁ e₁ + number s₂ c₂ e₂) := by
    have h := isRounded_settleInt (units s₁ c₁ e₁ e₂ + units s₂ c₂ e₂ e₂) e₂
    rwa [Int.cast_add, add_mul, units_mul s₁ c₁ he, units_mul s₂ c₂ le_rfl] at h
  unfold addAligned
  simp only
  generalize hleast : e₁ + min (-1) ((decimalLength c₁ : Int) - precision - 2) = least
  by_cases htrace : adjusted c₂ e₂ < least
  · rw [if_pos htrace]
    rw [adjusted_eq hc₂] at htrace
    have hmultiple : IsMultiple (least + 1) (number s₁ c₁ e₁) :=
      isMultiple_number s₁ c₁ (by omega)
    have hlarge : (10 : ℚ) ^ (least + precision + 1) ≤ |number s₁ c₁ e₁| := by
      rw [abs_number]
      exact le_trans (zpow_le_zpow_right₀ (by norm_num) (by omega)) (le_of_length hc₁ e₁)
    refine (hsum (by omega)).congr (rounded_add_trace hmultiple hlarge one_ne_zero hc₂ ?_ ?_)
    · rw [Nat.cast_one, one_mul]
    · exact (lt_of_length c₂ e₂).le.trans (zpow_le_zpow_right₀ (by norm_num) (by omega))
  · rw [if_neg htrace]
    exact hsum he

theorem isRounded_addZero (s : Bool) (c : Nat) (e zeroExponent : Int) :
    IsRounded (addZero s c e zeroExponent) (number s c e) := by
  unfold addZero
  simp only
  generalize hplace : max (min e zeroExponent) (e - precision - 1) = place
  have h := isRounded_settle s (c * tenPow (e - place).toNat) place
  rwa [tenPow_eq, number_mul_pow,
    show ((e - place).toNat : Int) + place = e by unfold precision at hplace; omega] at h

section

variable {a b : Decimal} {x y : ℚ} (ha : a.HasValue x) (hb : b.HasValue y)
include ha hb

/-- A sum of finite decimals is the exact one, rounded. -/
theorem isRounded_add : IsRounded (a.add b) (x + y) := by
  obtain ⟨s₁, c₁, e₁, rfl, rfl⟩ := ha.exists_finite
  obtain ⟨s₂, c₂, e₂, rfl, rfl⟩ := hb.exists_finite
  simp only [add]
  by_cases hc₁ : c₁ = 0
  · subst hc₁
    rw [number_zero, zero_add]
    by_cases hc₂ : c₂ = 0
    · subst hc₂
      rw [if_pos (by simp), number_zero, ← number_zero (s₁ && s₂) (min e₁ e₂)]
      exact isRounded_settle _ _ _
    · rw [if_neg (by simp [hc₂]), if_pos rfl]
      exact isRounded_addZero s₂ c₂ e₂ e₁
  · rw [if_neg (by simp [hc₁]), if_neg hc₁]
    by_cases hc₂ : c₂ = 0
    · subst hc₂
      rw [if_pos rfl, number_zero, add_zero]
      exact isRounded_addZero s₁ c₁ e₁ e₂
    · rw [if_neg hc₂]
      by_cases he : e₁ < e₂
      · rw [if_pos he, add_comm]
        exact isRounded_addAligned hc₂ hc₁ he.le
      · rw [if_neg he]
        exact isRounded_addAligned hc₁ hc₂ (Int.not_lt.1 he)

theorem isRounded_sub : IsRounded (a.sub b) (x - y) := by
  obtain ⟨s, c, e, rfl, rfl⟩ := hb.exists_finite
  have hnegate : (finite (!s) c e).HasValue (-number s c e) := by
    refine ⟨rfl, ?_⟩
    cases s <;> simp [toRat, number]
  exact sub_eq_add_neg x _ ▸ isRounded_add ha hnegate

end

end Decimal

end Appraisal
