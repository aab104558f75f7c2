import Appraisal.Proofs.Number.Bits

/-!
# The double nearest to a ratio

Rounding a ratio to a double moves it by at most half a unit of the last binary place that the double
has, and not at all when the ratio is a multiple of that unit.
-/

namespace Appraisal.Binary

def magnitude : Binary → ℚ
  | finite _ m q => m * 2 ^ q
  | _ => 0

theorem magnitude_nonneg (b : Binary) : 0 ≤ b.magnitude := by
  cases b <;> unfold magnitude <;> positivity

theorem two_zpow_pos (q : Int) : (0 : ℚ) < 2 ^ q := zpow_pos (by norm_num) q

theorem eq_of_abs_sub_lt_one {m n : Nat} (h : |(m : ℚ) - n| < 1) : m = n := by
  have hint : |(m : Int) - n| < 1 := by exact_mod_cast h
  have := Int.abs_lt_one_iff.1 hint
  omega

theorem abs_roundHalfEven_sub_le (num : Nat) {den : Nat} (h : den ≠ 0) :
    |(roundHalfEven num den : ℚ) - num / den| ≤ 1 / 2 := by
  obtain ⟨habove, hbelow⟩ := two_mul_roundHalfEven_mem num (Nat.pos_of_ne_zero h)
  have hden : (0 : ℚ) < den := by exact_mod_cast Nat.pos_of_ne_zero h
  have habove' : 2 * ((roundHalfEven num den : ℚ) * den) ≤ 2 * num + den := by exact_mod_cast habove
  have hbelow' : 2 * (num : ℚ) ≤ 2 * (roundHalfEven num den * den) + den := by exact_mod_cast hbelow
  have hnum : (num : ℚ) = num / den * den := (div_mul_cancel₀ _ hden.ne').symm
  rw [hnum] at habove' hbelow'
  rw [abs_le]
  constructor
  · nlinarith
  · nlinarith

/-! ### Places -/

theorem cast_twoPow_toNat {k : Int} (h : 0 ≤ k) : ((twoPow k.toNat : Nat) : ℚ) = 2 ^ k := by
  rw [twoPow_eq, Nat.cast_pow, Nat.cast_ofNat, ← zpow_natCast, Int.toNat_of_nonneg h]

section

variable {num den : Nat} (hnum : num ≠ 0) (hden : den ≠ 0)

include hden in
theorem reaches_iff (k : Int) : reaches num den k = true ↔ (2 : ℚ) ^ k ≤ num / den := by
  have hpos : (0 : ℚ) < den := by exact_mod_cast Nat.pos_of_ne_zero hden
  rw [le_div_iff₀ hpos]
  unfold reaches
  by_cases hk : 0 ≤ k
  · rw [if_pos hk, decide_eq_true_iff, ← cast_twoPow_toNat hk, mul_comm]
    norm_cast
  · have hinv : (2 : ℚ) ^ k = ((twoPow (-k).toNat : Nat) : ℚ)⁻¹ := by
      rw [cast_twoPow_toNat (by omega), zpow_neg, inv_inv]
    have htwo : (0 : ℚ) < (twoPow (-k).toNat : Nat) := by exact_mod_cast twoPow_pos _
    rw [if_neg hk, decide_eq_true_iff, hinv, inv_mul_le_iff₀ htwo, mul_comm _ (num : ℚ)]
    norm_cast

theorem log2_mem {n : Nat} (h : n ≠ 0) :
    (2 : ℚ) ^ (n.log2 : Int) ≤ n ∧ n < (2 : ℚ) ^ (n.log2 + 1 : Int) := by
  have hlog : 2 ^ n.log2 ≤ n ∧ n < 2 ^ (n.log2 + 1) := (Nat.log2_eq_iff h).1 rfl
  rw [show ((n.log2 : Int) + 1) = ((n.log2 + 1 : Nat) : Int) by push_cast; rfl, zpow_natCast,
    zpow_natCast]
  exact ⟨by exact_mod_cast hlog.1, by exact_mod_cast hlog.2⟩

include hnum hden

theorem highestPlace_mem : (2 : ℚ) ^ highestPlace num den ≤ num / den ∧
    (num : ℚ) / den < 2 ^ (highestPlace num den + 1) := by
  have hpos : (0 : ℚ) < den := by exact_mod_cast Nat.pos_of_ne_zero hden
  obtain ⟨hnumLow, hnumHigh⟩ := log2_mem hnum
  obtain ⟨hdenLow, hdenHigh⟩ := log2_mem hden
  unfold highestPlace
  simp only
  split
  · rename_i hreaches
    refine ⟨(reaches_iff hden _).1 hreaches, ?_⟩
    rw [div_lt_iff₀ hpos]
    calc (num : ℚ) < 2 ^ ((num.log2 : Int) - den.log2 + 1) * 2 ^ (den.log2 : Int) := by
          rw [← zpow_add₀ (by norm_num)]
          convert hnumHigh using 2
          ring
      _ ≤ 2 ^ ((num.log2 : Int) - den.log2 + 1) * den :=
          mul_le_mul_of_nonneg_left hdenLow (two_zpow_pos _).le
  · rename_i hreaches
    rw [reaches_iff hden, not_le] at hreaches
    refine ⟨?_, by rwa [sub_add_cancel]⟩
    rw [le_div_iff₀ hpos]
    calc (2 : ℚ) ^ ((num.log2 : Int) - den.log2 - 1) * den
        ≤ 2 ^ ((num.log2 : Int) - den.log2 - 1) * 2 ^ (den.log2 + 1 : Int) :=
          mul_le_mul_of_nonneg_left hdenHigh.le (two_zpow_pos _).le
      _ ≤ num := by
          rw [← zpow_add₀ (by norm_num)]
          convert hnumLow using 2
          ring

end

theorem abs_inUnits_sub_le (num : Nat) {den : Nat} (hden : den ≠ 0) (q : Int) :
    |(inUnits num den q : ℚ) - num / den / 2 ^ q| ≤ 1 / 2 := by
  unfold inUnits
  by_cases hq : 0 ≤ q
  · rw [if_pos hq, div_div, ← cast_twoPow_toNat hq, ← Nat.cast_mul]
    exact abs_roundHalfEven_sub_le num (Nat.mul_ne_zero hden (twoPow_pos _).ne')
  · have hinv : (num : ℚ) / den / 2 ^ q = (num * twoPow (-q).toNat : Nat) / den := by
      rw [Nat.cast_mul, cast_twoPow_toNat (by omega), zpow_neg, div_div, mul_comm (den : ℚ),
        ← div_div, div_eq_mul_inv (num : ℚ)]
    rw [if_neg hq, hinv]
    exact abs_roundHalfEven_sub_le _ hden

/-! ### Bits -/

/-- A significand beside its place spells a binary fraction. One that has reached the next power of two
has carried into the exponent. -/
theorem magnitude_signed {negative : Bool} {r : Nat} {q : Int} (hr : r ≤ 2 ^ 53)
    (hq : leastExponent ≤ q) (hnormal : r < 2 ^ 52 → q = leastExponent)
    (h : r + (q - leastExponent).toNat * twoPow 52 < infiniteBits) :
    (ofFloat (signed negative (r + (q - leastExponent).toNat * twoPow 52))).magnitude = r * 2 ^ q := by
  rw [ofFloat_signed h]
  rw [twoPow_eq]
  obtain ⟨place, hplace⟩ : ∃ place : Nat, q - leastExponent = place :=
    ⟨(q - leastExponent).toNat, by omega⟩
  have hleast : leastExponent = -1074 := rfl
  rw [hplace, Int.toNat_natCast]
  by_cases hsmall : r < 2 ^ 52
  · have hzero : place = 0 := by
      have := hnormal hsmall
      omega
    rw [hzero, Nat.zero_mul, Nat.add_zero, if_pos (Nat.div_eq_of_lt hsmall), hnormal hsmall]
    rfl
  · rw [if_neg (by omega)]
    by_cases hcarry : r = 2 ^ 53
    · have hexponent : (r + place * 2 ^ 52) / 2 ^ 52 = place + 2 := by omega
      have hfraction : (r + place * 2 ^ 52) % 2 ^ 52 = 0 := by omega
      have hpower : (((place + 2 : Nat) : Int) - 1075) = q + 1 := by omega
      rw [hexponent, hfraction, hpower, hcarry]
      simp only [magnitude]
      rw [zpow_add₀ (by norm_num)]
      norm_num
      ring
    · have hexponent : (r + place * 2 ^ 52) / 2 ^ 52 = place + 1 := by omega
      have hfraction : 2 ^ 52 + (r + place * 2 ^ 52) % 2 ^ 52 = r := by omega
      have hpower : (((place + 1 : Nat) : Int) - 1075) = q := by omega
      rw [hexponent, hfraction, hpower]
      rfl

/-! ### The last place -/

section

variable {num den : Nat} (hnum : num ≠ 0) (hden : den ≠ 0)
include hnum hden

theorem lastPlace_le {q : Int} (hq : leastExponent ≤ q) (h : (num : ℚ) / den < 2 ^ (q + 53)) :
    lastPlace num den ≤ q := by
  have hlt := (highestPlace_mem hnum hden).1.trans_lt h
  rw [zpow_lt_zpow_iff_right₀ (by norm_num)] at hlt
  unfold lastPlace
  omega

/-- The significand that a ratio is rounded to has at most one bit too many. -/
theorem inUnits_lastPlace_le : inUnits num den (lastPlace num den) ≤ 2 ^ 53 := by
  have hround := abs_le.1 (abs_inUnits_sub_le num hden (lastPlace num den))
  have hv : (num : ℚ) / den / 2 ^ lastPlace num den < 2 ^ 53 := by
    rw [div_lt_iff₀ (two_zpow_pos _), ← zpow_natCast, ← zpow_add₀ (by norm_num)]
    refine (highestPlace_mem hnum hden).2.trans_le (zpow_le_zpow_right₀ (by norm_num) ?_)
    rw [lastPlace]
    push_cast
    omega
  have hlt : (inUnits num den (lastPlace num den) : ℚ) < 2 ^ 53 + 1 := by linarith
  exact Nat.lt_succ_iff.1 (by exact_mod_cast hlt)

/-- Only the smallest doubles have significands with fewer bits. -/
theorem lastPlace_eq_of_inUnits_lt (h : inUnits num den (lastPlace num den) < 2 ^ 52) :
    lastPlace num den = leastExponent := by
  by_contra hne
  have hround := abs_le.1 (abs_inUnits_sub_le num hden (lastPlace num den))
  have hv : (2 : ℚ) ^ 52 ≤ num / den / 2 ^ lastPlace num den := by
    rw [le_div_iff₀ (two_zpow_pos _), ← zpow_natCast, ← zpow_add₀ (by norm_num)]
    refine le_trans (zpow_le_zpow_right₀ (by norm_num) ?_) (highestPlace_mem hnum hden).1
    rw [lastPlace] at hne ⊢
    push_cast
    omega
  have hle : (inUnits num den (lastPlace num den) : ℚ) + 1 ≤ 2 ^ 52 := by exact_mod_cast h
  linarith

theorem nearestBits_lt (hlt : (num : ℚ) / den < 2 ^ (1022 : Int)) :
    inUnits num den (lastPlace num den) + (lastPlace num den - leastExponent).toNat * twoPow 52 <
      infiniteBits := by
  have hupper := inUnits_lastPlace_le hnum hden
  have hplace := lastPlace_le hnum hden (q := 969) (by decide) hlt
  have hi : infiniteBits = 2047 * 2 ^ 52 := rfl
  have hleast : leastExponent = -1074 := rfl
  rw [twoPow_eq, hi]
  omega

theorem nearestBits_eq (hlt : (num : ℚ) / den < 2 ^ (1022 : Int)) : nearestBits num den =
    inUnits num den (lastPlace num den) + (lastPlace num den - leastExponent).toNat * twoPow 52 := by
  unfold nearestBits
  rw [if_neg hnum]
  exact min_eq_left (nearestBits_lt hnum hden hlt).le

end

theorem exists_ofFloat_signed {negative : Bool} {bits : Nat} (h : bits < infiniteBits) :
    ∃ m q, ofFloat (signed negative bits) = .finite negative m q := by
  rw [ofFloat_signed h]
  split
  · exact ⟨_, _, rfl⟩
  · exact ⟨_, _, rfl⟩

/-! ### Nearest doubles -/

/-- A finite double with a sign that is as near to a number without one as doubles are. Below
`2 ^ (q + 53)` they count units of `2 ^ q`. -/
structure IsNearest (negative : Bool) (v : ℚ) (x : Float) : Prop where
  signed : ∃ bits < infiniteBits, x = signed negative bits
  error : ∀ q, leastExponent ≤ q → v < 2 ^ (q + 53) → |(ofFloat x).magnitude - v| ≤ 2 ^ q / 2
  exact : ∀ q, leastExponent ≤ q → v < 2 ^ (q + 53) → (∃ k : Nat, v = k * 2 ^ q) →
    (ofFloat x).magnitude = v

theorem magnitude_signed_zero (negative : Bool) : (ofFloat (signed negative 0)).magnitude = 0 := by
  rw [ofFloat_signed (by decide), if_pos (Nat.zero_div _)]
  simp [magnitude]

theorem isNearest_zero (negative : Bool) : IsNearest negative 0 (Binary.signed negative 0) := by
  have hzero := magnitude_signed_zero negative
  refine ⟨⟨0, by decide, rfl⟩, fun q _ _ => ?_, fun q _ _ _ => hzero⟩
  rw [hzero, sub_zero, abs_zero]
  exact (half_pos (two_zpow_pos q)).le

/-- But for the smallest doubles the error is in proportion to the number. -/
theorem IsNearest.relative_error {negative : Bool} {v : ℚ} {x : Float} (h : IsNearest negative v x)
    (hv : v = 0 ∨ 2 ^ (-1022 : Int) ≤ v) : |(ofFloat x).magnitude - v| ≤ v / 2 ^ 53 := by
  rcases hv with rfl | hv
  · rw [h.exact 0 (by decide) (two_zpow_pos _) ⟨0, by simp⟩]
    simp
  · have hone : (1 : ℚ) < 2 := one_lt_two
    have hpos : 0 < v := (two_zpow_pos _).trans_le hv
    obtain ⟨n, hlow, hhigh⟩ := exists_mem_Ico_zpow hpos hone
    have hn : -1022 < n + 1 := by
      rw [← zpow_lt_zpow_iff_right₀ hone]
      exact hv.trans_lt hhigh
    have hleast : leastExponent = -1074 := rfl
    refine (h.error (n - 52) (by omega) ?_).trans ?_
    · rwa [show n - 52 + 53 = n + 1 by ring]
    · rw [zpow_sub₀ (by norm_num), div_div]
      exact div_le_div₀ hpos.le hlow (by norm_num) (by norm_num)

/-- A coarser place allows a greater error. -/
theorem abs_inUnits_mul_sub_le (num : Nat) {den : Nat} (hden : den ≠ 0) {place q : Int}
    (h : place ≤ q) : |(inUnits num den place : ℚ) * 2 ^ place - num / den| ≤ 2 ^ q / 2 := by
  have hround := abs_inUnits_sub_le num hden place
  have hpos := two_zpow_pos place
  have herror : (inUnits num den place : ℚ) * 2 ^ place - num / den =
      (inUnits num den place - num / den / 2 ^ place) * 2 ^ place := by
    rw [sub_mul, div_mul_cancel₀ _ hpos.ne']
  have hle : (2 : ℚ) ^ place ≤ 2 ^ q := zpow_le_zpow_right₀ (by norm_num) h
  rw [herror, abs_mul, abs_of_pos hpos]
  calc |(inUnits num den place : ℚ) - num / den / 2 ^ place| * 2 ^ place
      ≤ 1 / 2 * 2 ^ place := mul_le_mul_of_nonneg_right hround hpos.le
    _ ≤ 2 ^ q / 2 := by linarith

/-- A whole number of units is its own rounding, at its place and at any finer one. -/
theorem inUnits_mul_eq {num den k : Nat} (hden : den ≠ 0) {place q : Int} (h : place ≤ q)
    (hk : (num : ℚ) / den = k * 2 ^ q) :
    (inUnits num den place : ℚ) * 2 ^ place = num / den := by
  have hround := abs_inUnits_sub_le num hden place
  have hsplit : (2 : ℚ) ^ q = 2 ^ (q - place).toNat * 2 ^ place := by
    rw [← zpow_natCast, ← zpow_add₀ (by norm_num)]
    exact congrArg _ (by omega)
  have hunits : (num : ℚ) / den / 2 ^ place = (k * 2 ^ (q - place).toNat : Nat) := by
    rw [hk, hsplit, ← mul_assoc, mul_div_cancel_right₀ _ (two_zpow_pos place).ne']
    push_cast
    rfl
  rw [hunits] at hround
  have hr : inUnits num den place = k * 2 ^ (q - place).toNat :=
    eq_of_abs_sub_lt_one (hround.trans_lt (by norm_num))
  rw [hk, hsplit, hr]
  push_cast
  ring

theorem magnitude_nearest (negative : Bool) {num den : Nat} (hnum : num ≠ 0) (hden : den ≠ 0)
    (hlt : (num : ℚ) / den < 2 ^ (1022 : Int)) :
    (ofFloat (nearest negative num den)).magnitude =
      inUnits num den (lastPlace num den) * 2 ^ lastPlace num den := by
  rw [nearest, nearestBits_eq hnum hden hlt]
  exact magnitude_signed (inUnits_lastPlace_le hnum hden) (le_max_right _ _)
    (lastPlace_eq_of_inUnits_lt hnum hden) (nearestBits_lt hnum hden hlt)

theorem isNearest_nearest (negative : Bool) {num den : Nat} (hnum : num ≠ 0) (hden : den ≠ 0)
    (hlt : (num : ℚ) / den < 2 ^ (1022 : Int)) :
    IsNearest negative (num / den) (nearest negative num den) := by
  have hbits := nearestBits_lt hnum hden hlt
  have hmagnitude := magnitude_nearest negative hnum hden hlt
  refine ⟨⟨_, nearestBits_eq hnum hden hlt ▸ hbits, rfl⟩, fun q hq hv => ?_, fun q hq hv hk => ?_⟩
  · rw [hmagnitude]
    exact abs_inUnits_mul_sub_le num hden (lastPlace_le hnum hden hq hv)
  · obtain ⟨k, hk⟩ := hk
    rw [hmagnitude]
    exact inUnits_mul_eq hden (lastPlace_le hnum hden hq hv) hk

end Appraisal.Binary
