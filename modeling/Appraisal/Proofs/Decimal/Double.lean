import Appraisal.Proofs.Decimal.Exact
import Appraisal.Proofs.Number.Fixed
import Appraisal.Proofs.Number.Nearest

/-!
# Decimals that go through doubles

A decimal within the range of doubles becomes the nearest one. A double that is written with some
decimal places reads back as its number rounded to them.
-/

namespace Appraisal

open Binary

namespace Scientific

theorem den_ne_zero (s : Scientific) : s.den ≠ 0 := by
  unfold den
  split
  · exact one_ne_zero
  · exact (tenPow_pos _).ne'

theorem num_ne_zero {s : Scientific} (h : s.digits ≠ 0) : s.num ≠ 0 := by
  unfold num
  split
  · exact Nat.mul_ne_zero h (tenPow_pos _).ne'
  · exact h

theorem num_div_den (s : Scientific) : (s.num : ℚ) / s.den = s.digits * 10 ^ s.exponent := by
  unfold num den
  by_cases he : 0 ≤ s.exponent
  · rw [if_pos he, if_pos he, Nat.cast_one, div_one, tenPow_eq, Nat.cast_mul, Nat.cast_pow,
      Nat.cast_ofNat, ← zpow_natCast, Int.toNat_of_nonneg he]
  · rw [if_neg he, if_neg he, tenPow_eq, Nat.cast_pow, Nat.cast_ofNat, ← zpow_natCast,
      Int.toNat_of_nonneg (by omega), zpow_neg, div_inv_eq_mul]

end Scientific

namespace Decimal

theorem ten_zpow_le : (10 : ℚ) ^ (200 : Int) ≤ 2 ^ (1022 : Int) := by
  calc (10 : ℚ) ^ (200 : Int) ≤ (2 ^ 4) ^ (200 : Int) :=
        zpow_le_zpow_left₀ (by norm_num) (by norm_num) (by norm_num)
    _ = 2 ^ (800 : Int) := by rw [← zpow_natCast 2 4, ← zpow_mul]; rfl
    _ ≤ 2 ^ (1022 : Int) := zpow_le_zpow_right₀ (by norm_num) (by norm_num)

theorem zpow_le_ten_zpow : (2 : ℚ) ^ (-1022 : Int) ≤ 10 ^ (-200 : Int) := by
  rw [zpow_neg, zpow_neg]
  exact inv_anti₀ (ten_zpow_pos 200) ten_zpow_le

/-- A number that is neither too large nor too small becomes the nearest double. -/
theorem exists_toFloat? (s : Bool) {c : Nat} {e : Int}
    (hlow : c = 0 ∨ (10 : ℚ) ^ (-200 : Int) ≤ c * 10 ^ e)
    (hhigh : (c : ℚ) * 10 ^ e < 10 ^ (200 : Int)) :
    ∃ x, (finite s c e).toFloat? = some x ∧ IsNearest s (c * 10 ^ e) x := by
  refine ⟨_, rfl, ?_⟩
  unfold Numeral.toFloat Numeral.coefficient Numeral.scale
  simp only [List.append_nil, List.length_nil, Nat.cast_zero, sub_zero, digitsValue_map_digitsOf]
  by_cases hc : c = 0
  · rw [if_pos hc, hc, Nat.cast_zero, zero_mul]
    exact isNearest_zero s
  · have hfirst := length_lt_of_lt hc hhigh
    have hlast := lt_length_of_le (hlow.resolve_left hc)
    have hvalue := Scientific.num_div_den ⟨c, e⟩
    rw [if_neg hc, if_neg (by omega), if_neg (by omega), ← hvalue]
    refine isNearest_nearest s (Scientific.num_ne_zero hc) (Scientific.den_ne_zero _) ?_
    rw [hvalue]
    exact hhigh.trans_le ten_zpow_le

/-- Both halves of the text of a double with some places write the same ratio. -/
theorem exists_fixedText {x : Float} {s : Bool} {m : Nat} {q : Int}
    (hx : Binary.ofFloat x = .finite s m q) (places : Nat) :
    ∃ num den : Nat, den ≠ 0 ∧ (num : ℚ) / den = m * 2 ^ q ∧
      fixedText places x =
        String.ofList ((if s then ['-'] else []) ++ fixedRatio places num den) := by
  unfold fixedText
  rw [hx]
  by_cases hq : 0 ≤ q
  · refine ⟨m * twoPow q.toNat, 1, one_ne_zero, ?_, by simp only [if_pos hq]⟩
    rw [Nat.cast_one, div_one, Nat.cast_mul, cast_twoPow_toNat hq]
  · refine ⟨m, twoPow (-q).toNat, (twoPow_pos _).ne', ?_, by simp only [if_neg hq]⟩
    rw [cast_twoPow_toNat (by omega), zpow_neg, div_inv_eq_mul]

/-- The digits of a number that is rounded to some places. -/
theorem decimalLength_le_of_near {r places : Nat} {v : ℚ} (hround : |(r : ℚ) - v * 10 ^ places| ≤ 1 / 2)
    (hhigh : v < 10 ^ (200 : Int)) : decimalLength r ≤ 201 + places := by
  rw [decimalLength_le_iff]
  have hpos : (1 : ℚ) ≤ 10 ^ places := one_le_pow₀ (by norm_num)
  have hone : (1 : ℚ) ≤ 10 ^ 200 * 10 ^ places :=
    one_le_mul_of_one_le_of_one_le (one_le_pow₀ (by norm_num)) hpos
  have hless : v * 10 ^ places < 10 ^ 200 * 10 ^ places :=
    mul_lt_mul_of_pos_right hhigh (zero_lt_one.trans_le hpos)
  have hle := (abs_le.1 hround).2
  have hlt : (r : ℚ) < 10 ^ (201 + places) := by
    rw [show 201 + places = 200 + places + 1 by omega, pow_succ, pow_add]
    generalize (10 : ℚ) ^ 200 * 10 ^ places = bound at hone hless ⊢
    linarith
  exact_mod_cast hlt

/-- A numeral without an exponent that is not too long is its digits and its places. -/
theorem ofNumeral_fixed {s : Bool} {whole fraction : List Nat} {r places : Nat}
    (hcoefficient : Numeral.coefficient ⟨s, whole, fraction, 0⟩ = r)
    (hlength : fraction.length = places) (hfew : places ≤ 1000)
    (hlong : decimalLength r ≤ 201 + places) :
    ofNumeral ⟨s, whole, fraction, 0⟩ = .ok (finite s r (-places)) := by
  have hscale : Numeral.scale ⟨s, whole, fraction, 0⟩ = -places := by
    rw [Numeral.scale, hlength, zero_sub]
  unfold ofNumeral
  simp only
  rw [hcoefficient, hscale, if_neg]
  unfold adjusted length writtenLimit leastWritten writtenLimit
  simp
  omega

/-- A double with some places reads back as its number rounded to them. -/
theorem exists_read?_fixedText {x : Float} {s : Bool} {m : Nat} {q : Int}
    (hx : Binary.ofFloat x = .finite s m q) {places : Nat} (hplaces : places ≠ 0) (hfew : places ≤ 1000)
    (hhigh : (m : ℚ) * 2 ^ q < 10 ^ (200 : Int)) :
    ∃ r : Nat, Decimal.read? (fixedText places x) = some (finite s r (-places)) ∧
      |(r : ℚ) - m * 2 ^ q * 10 ^ places| ≤ 1 / 2 := by
  obtain ⟨num, den, hden, hratio, htext⟩ := exists_fixedText hx places
  obtain ⟨whole, fraction, hchars, hwhole, hfraction, hne, hlength, hvalue⟩ :=
    exists_fixedRatio hplaces num den
  have hround := abs_roundHalfEven_sub_le (num * tenPow places) hden
  rw [Nat.cast_mul, tenPow_eq, Nat.cast_pow, Nat.cast_ofNat, mul_div_right_comm, hratio] at hround
  rw [tenPow_eq] at hvalue
  generalize Binary.roundHalfEven (num * 10 ^ places) den = r at *
  refine ⟨r, ?_, hround⟩
  have hnumeral := ofNumeral_fixed (s := s) hvalue hlength hfew (decimalLength_le_of_near hround hhigh)
  rw [htext, hchars, read?_ofList, ← Numeral.fixed, ofChars_fixed hwhole hfraction hne, hnumeral]
  rfl

end Decimal

end Appraisal
