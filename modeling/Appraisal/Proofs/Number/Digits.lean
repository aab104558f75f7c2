import Mathlib.Algebra.Order.Field.Power
import Mathlib.Tactic.Linarith
import Mathlib.Tactic.NormNum
import Mathlib.Tactic.Ring
import Appraisal.Number.Shortest

/-!
# Lengths of numbers and rounding to integers

A number has at most so many decimal digits when it is less than that power of ten. Rounding a
quotient to an integer moves it by at most one half, and not at all when it is an integer.
-/

namespace Appraisal

theorem tenPow_eq (k : Nat) : tenPow k = 10 ^ k := rfl

theorem twoPow_eq (k : Nat) : twoPow k = 2 ^ k := rfl

theorem decimalLength_le_iff {n k : Nat} : decimalLength n ≤ k ↔ n < 10 ^ k := by
  induction k generalizing n with
  | zero =>
      by_cases hn : n = 0
      · simp [decimalLength, hn]
      · rw [decimalLength, dif_neg hn]
        simp [hn]
  | succ k ih =>
      by_cases hn : n = 0
      · simp [decimalLength, hn]
      · rw [decimalLength, dif_neg hn, Nat.add_le_add_iff_right, ih,
          Nat.div_lt_iff_lt_mul (by decide), Nat.pow_succ]

theorem lt_pow_decimalLength (n : Nat) : n < 10 ^ decimalLength n :=
  decimalLength_le_iff.1 le_rfl

theorem pow_le_of_lt_decimalLength {n k : Nat} (h : k < decimalLength n) : 10 ^ k ≤ n := by
  by_contra hlt
  exact absurd (decimalLength_le_iff.2 (Nat.not_le.1 hlt)) (Nat.not_le.2 h)

theorem decimalLength_pos {n : Nat} (h : n ≠ 0) : 0 < decimalLength n := by
  rw [decimalLength, dif_neg h]
  exact Nat.succ_pos _

namespace Binary

theorem roundHalfEven_mul (k : Nat) {den : Nat} (h : 0 < den) :
    roundHalfEven (k * den) den = k := by
  unfold roundHalfEven
  rw [Nat.mul_div_cancel k h, Nat.mul_mod_left]
  exact if_pos h

/-- A rounded quotient is at most one half away from the quotient. -/
theorem two_mul_roundHalfEven_mem (num : Nat) {den : Nat} (h : 0 < den) :
    2 * (roundHalfEven num den * den) ≤ 2 * num + den ∧
      2 * num ≤ 2 * (roundHalfEven num den * den) + den := by
  have hnum : num / den * den + num % den = num := Nat.div_add_mod' num den
  have hrest : num % den < den := Nat.mod_lt num h
  generalize hr : roundHalfEven num den = r
  unfold roundHalfEven at hr
  simp only at hr
  split at hr
  · subst hr
    omega
  · split at hr
    · subst hr
      rw [Nat.add_mul, Nat.one_mul]
      omega
    · -- the rest is just one half
      rcases Nat.mod_two_eq_zero_or_one (num / den) with heven | hodd
      · rw [heven, Nat.add_zero] at hr
        subst hr
        omega
      · rw [hodd] at hr
        subst hr
        rw [Nat.add_mul, Nat.one_mul]
        omega

end Binary

end Appraisal
