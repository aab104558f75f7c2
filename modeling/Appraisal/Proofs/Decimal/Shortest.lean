import Appraisal.Proofs.Number.Report
import Appraisal.Proofs.Number.Ties

/-!
# Money is the shortest decimal

Of all decimals that are rounded to a finite double, the one that becomes money has the fewest digits,
zeros at the end not counted, and among those with as few it is the nearest. If the double is halfway
between two of these, the other one has an odd last digit. A decimal with so many digits is either on
the grid that the search tries for this number of digits, or it is below the power of ten at which the
digits of the double begin; then this power, with its single digit, is nearer. On the grid only the two
neighbours of the double matter, since what lies between a double and a decimal that is rounded to it
is rounded to it as well. The main statement: `ofFloat_isShortest`.
-/

namespace Appraisal

open Binary

/-! ### Significant digits -/

/-- How many digits a number has without the zeros at its end. -/
def significantLength (c : Nat) : Nat :=
  if h : c = 0 then 0 else if c % 10 = 0 then significantLength (c / 10) else decimalLength c
termination_by c
decreasing_by omega

/-- A number with so many digits at most, followed by zeros. -/
theorem significantLength_le_iff {c n : Nat} :
    significantLength c ≤ n ↔ ∃ a k, a < 10 ^ n ∧ c = a * 10 ^ k := by
  fun_induction significantLength c with
  | case1 =>
      exact ⟨fun _ => ⟨0, 0, Nat.pow_pos (by decide), by simp⟩, fun _ => Nat.zero_le n⟩
  | case2 c hne hzero ih =>
      rw [ih]
      constructor
      · rintro ⟨a, k, ha, hc⟩
        refine ⟨a, k + 1, ha, ?_⟩
        rw [pow_succ, ← Nat.mul_assoc, ← hc]
        omega
      · rintro ⟨a, k, ha, hc⟩
        cases k with
        | zero =>
            rw [pow_zero, Nat.mul_one] at hc
            exact ⟨a / 10, 0, (Nat.div_le_self a 10).trans_lt ha, by rw [hc, pow_zero, Nat.mul_one]⟩
        | succ k =>
            refine ⟨a, k, ha, ?_⟩
            rw [hc, pow_succ, ← Nat.mul_assoc, Nat.mul_div_cancel _ (by decide)]
  | case3 c hne hlast =>
      rw [decimalLength_le_iff]
      constructor
      · exact fun hlt => ⟨c, 0, hlt, by rw [pow_zero, Nat.mul_one]⟩
      · rintro ⟨a, k, ha, hc⟩
        cases k with
        | zero => rwa [hc, pow_zero, Nat.mul_one]
        | succ k => exact absurd (by rw [hc, pow_succ, ← Nat.mul_assoc, Nat.mul_mod_left]) hlast

theorem significantLength_mul_pow (c k : Nat) :
    significantLength (c * 10 ^ k) = significantLength c := by
  refine le_antisymm ?_ ?_
  · obtain ⟨a, j, ha, hc⟩ := significantLength_le_iff.1 (le_refl (significantLength c))
    exact significantLength_le_iff.2 ⟨a, j + k, ha, by rw [pow_add, ← Nat.mul_assoc, ← hc]⟩
  · induction k with
    | zero => rw [pow_zero, Nat.mul_one]
    | succ k ih =>
        refine ih.trans (le_of_eq ?_)
        by_cases hzero : c * 10 ^ k = 0
        · rw [pow_succ, ← Nat.mul_assoc, hzero, Nat.zero_mul]
        · conv_rhs => rw [significantLength, pow_succ, ← Nat.mul_assoc]
          rw [dif_neg (by omega), if_pos (Nat.mul_mod_left _ _), Nat.mul_div_cancel _ (by decide)]

/-- The last digit of a number that is not one of the zeros at its end. -/
def lastDigit (c : Nat) : Nat :=
  if h : c = 0 then 0 else if c % 10 = 0 then lastDigit (c / 10) else c % 10
termination_by c
decreasing_by omega

theorem lastDigit_mul_pow (c k : Nat) : lastDigit (c * 10 ^ k) = lastDigit c := by
  induction k with
  | zero => rw [pow_zero, Nat.mul_one]
  | succ k ih =>
      rw [← ih, pow_succ, ← Nat.mul_assoc]
      by_cases hzero : c * 10 ^ k = 0
      · rw [hzero, Nat.zero_mul]
      · conv_lhs => rw [lastDigit]
        rw [dif_neg (by omega), if_pos (Nat.mul_mod_left _ _), Nat.mul_div_cancel _ (by decide)]

theorem lastDigit_of_odd {c : Nat} (h : c % 2 = 1) : lastDigit c % 2 = 1 := by
  rw [lastDigit, dif_neg (by omega), if_neg (by omega)]
  omega

/-- Decimals with one number have the same digits up to zeros at their end. -/
theorem digits_congr {c c' : Nat} {e e' : Int} (h : (c : ℚ) * 10 ^ e = c' * 10 ^ e') :
    significantLength c = significantLength c' ∧ lastDigit c = lastDigit c' := by
  wlog hle : e ≤ e' generalizing c c' e e'
  · obtain ⟨hlength, hlast⟩ := this h.symm (le_of_not_ge hle)
    exact ⟨hlength.symm, hlast.symm⟩
  · obtain ⟨k, hk⟩ : ∃ k : Nat, e' = k + e := ⟨(e' - e).toNat, by omega⟩
    rw [hk, zpow_add₀ (by norm_num), zpow_natCast, ← mul_assoc] at h
    have hc : c = c' * 10 ^ k := by exact_mod_cast mul_right_cancel₀ (Decimal.ten_zpow_pos e).ne' h
    rw [hc]
    exact ⟨significantLength_mul_pow c' k, lastDigit_mul_pow c' k⟩

/-! ### The grid of a number of digits -/

theorem lt_ten_zpow_highestDecimal {num den : Nat} (hnum : num ≠ 0) (hden : den ≠ 0) :
    (num : ℚ) / den < 10 ^ (highestDecimal num den + 1) := by
  have hpos : (0 : ℚ) < den := Nat.cast_pos.2 (Nat.pos_of_ne_zero hden)
  unfold highestDecimal
  by_cases hge : den ≤ num
  · rw [if_pos hge, sub_add_cancel, zpow_natCast]
    have hhigh := lt_pow_decimalLength (num / den)
    rw [Nat.div_lt_iff_lt_mul (Nat.pos_of_ne_zero hden)] at hhigh
    rw [div_lt_iff₀ hpos]
    exact_mod_cast hhigh
  · obtain ⟨L, hL⟩ : ∃ L, decimalLength ((den - 1) / num) = L + 1 := by
      have hquotient : (den - 1) / num ≠ 0 :=
        (Nat.div_pos (by omega) (Nat.pos_of_ne_zero hnum)).ne'
      exact Nat.exists_eq_succ_of_ne_zero (decimalLength_pos hquotient).ne'
    have hlow : 10 ^ L ≤ (den - 1) / num := pow_le_of_lt_decimalLength (by omega)
    rw [Nat.le_div_iff_mul_le (Nat.pos_of_ne_zero hnum)] at hlow
    have hless : 10 ^ L * num < den := by omega
    rw [if_neg hge, hL, show -((L + 1 : Nat) : Int) + 1 = -L by push_cast; ring, zpow_neg,
      zpow_natCast, lt_inv_comm₀ (by positivity) (by positivity), inv_div, lt_div_iff₀ (by positivity)]
    exact_mod_cast hless

theorem Scientific.bits_mono {s t : Scientific}
    (h : (s.digits : ℚ) * 10 ^ s.exponent ≤ t.digits * 10 ^ t.exponent) : s.bits ≤ t.bits := by
  rw [← Scientific.num_div_den, ← Scientific.num_div_den] at h
  exact nearestBits_mono s.den_ne_zero t.den_ne_zero h

theorem Scientific.bits_congr {s t : Scientific}
    (h : (s.digits : ℚ) * 10 ^ s.exponent = t.digits * 10 ^ t.exponent) : s.bits = t.bits :=
  (bits_mono h.le).antisymm (bits_mono h.ge)

section

variable {bits num den n : Nat} {k : Int}

/-- What lies between a ratio and a decimal is rounded to the same double as they are. -/
theorem bits_eq_of_between {s t : Scientific} (hden : den ≠ 0) (hself : nearestBits num den = bits)
    (hs : s.bits = bits)
    (h : s.digits * (10 : ℚ) ^ s.exponent ≤ t.digits * 10 ^ t.exponent ∧
        t.digits * (10 : ℚ) ^ t.exponent ≤ num / den ∨
      (num : ℚ) / den ≤ t.digits * 10 ^ t.exponent ∧
        t.digits * (10 : ℚ) ^ t.exponent ≤ s.digits * 10 ^ s.exponent) : t.bits = bits := by
  rcases h with ⟨hle, hle'⟩ | ⟨hle, hle'⟩
  · rw [← Scientific.num_div_den t] at hle'
    have hlow := Scientific.bits_mono hle
    have hhigh := nearestBits_mono t.den_ne_zero hden hle'
    rw [hs] at hlow
    rw [hself] at hhigh
    exact hhigh.antisymm hlow
  · rw [← Scientific.num_div_den t] at hle
    have hhigh := Scientific.bits_mono hle'
    have hlow := nearestBits_mono hden t.den_ne_zero hle
    rw [hs] at hhigh
    rw [hself] at hlow
    exact hhigh.antisymm hlow

/-- A decimal on the grid is farther than a neighbour of the ratio that is rounded to the double, too,
unless it is this neighbour. -/
theorem exists_neighbour_of_grid (hden : den ≠ 0) (hself : nearestBits num den = bits) {a : Nat}
    (ha : Scientific.bits ⟨a, k⟩ = bits) :
    ∃ j, (j = gridFloor num den k ∨ j = gridFloor num den k + 1) ∧ Scientific.bits ⟨j, k⟩ = bits ∧
      (a = j ∨ |(j : ℚ) * 10 ^ k - num / den| < |(a : ℚ) * 10 ^ k - num / den|) := by
  have hten := Decimal.ten_zpow_pos k
  obtain ⟨hbelow, habove⟩ := gridFloor_mem num den k
  have hmono {i j : Nat} (hlt : i < j) : (i : ℚ) * 10 ^ k < j * 10 ^ k :=
    mul_lt_mul_of_pos_right (Nat.cast_lt.2 hlt) hten
  rcases Nat.lt_trichotomy a (gridFloor num den k) with hlt | rfl | hgt
  · have hless := hmono hlt
    refine ⟨_, .inl rfl, bits_eq_of_between hden hself ha (.inl ⟨hless.le, hbelow⟩), .inr ?_⟩
    rw [abs_of_nonpos (by linarith), abs_of_nonpos (by linarith)]
    linarith
  · exact ⟨_, .inl rfl, ha, .inl rfl⟩
  · rcases (Nat.succ_le_of_lt hgt).eq_or_lt with rfl | hlt
    · exact ⟨_, .inr rfl, ha, .inl rfl⟩
    · have hless := hmono hlt
      refine ⟨_, .inr rfl, bits_eq_of_between hden hself ha (.inr ⟨habove.le, hless.le⟩), .inr ?_⟩
      rw [Nat.succ_eq_add_one] at hless
      rw [abs_of_nonneg (by linarith), abs_of_nonneg (by linarith)]
      linarith

/-- A decimal with at most so many digits is on their grid, or a power of ten on it is nearer. -/
theorem exists_grid_of_digits (hnum : num ≠ 0) (hden : den ≠ 0) (hself : nearestBits num den = bits)
    (hn : 0 < n) (hk : k = highestDecimal num den - n + 1) {a : Nat} {e : Int} (hdigits : a < 10 ^ n)
    (ha : Scientific.bits ⟨a, e⟩ = bits) :
    ∃ j, Scientific.bits ⟨j, k⟩ = bits ∧ ((a : ℚ) * 10 ^ e = j * 10 ^ k ∨
      |(j : ℚ) * 10 ^ k - num / den| < |(a : ℚ) * 10 ^ e - num / den|) := by
  have hlow := ten_zpow_highestDecimal_le hnum hden
  rcases le_or_gt ((10 : ℚ) ^ highestDecimal num den) (a * 10 ^ e) with hle | hlt
  · have hlength : decimalLength a ≤ n := decimalLength_le_iff.2 hdigits
    have hplace := Decimal.lt_length_of_le hle
    obtain ⟨i, hi⟩ : ∃ i : Nat, e = i + k := ⟨(e - k).toNat, by omega⟩
    have heq : ((a * 10 ^ i : Nat) : ℚ) * 10 ^ k = a * 10 ^ e := by
      rw [hi, zpow_add₀ (by norm_num), zpow_natCast]
      push_cast
      ring
    exact ⟨a * 10 ^ i, (Scientific.bits_congr heq).trans ha, .inl heq.symm⟩
  · have heq : ((10 ^ (n - 1) : Nat) : ℚ) * 10 ^ k = 10 ^ highestDecimal num den := by
      rw [show highestDecimal num den = (n - 1 : Nat) + k by omega, zpow_add₀ (by norm_num),
        zpow_natCast]
      push_cast
      rfl
    refine ⟨10 ^ (n - 1), bits_eq_of_between hden hself ha (.inl ⟨?_, ?_⟩), .inr ?_⟩
    · exact heq ▸ hlt.le
    · exact heq ▸ hlow
    · rw [heq, abs_of_nonpos (by linarith), abs_of_nonpos (by linarith)]
      linarith

/-- What the search compares is how far decimals are from the ratio. -/
theorem Scientific.distance_div (s : Scientific) (num : Nat) (hden : den ≠ 0) :
    |s.digits * (10 : ℚ) ^ s.exponent - num / den| = s.distance num den / (s.den * den) := by
  have hsden : (0 : ℚ) < s.den := Nat.cast_pos.2 (Nat.pos_of_ne_zero s.den_ne_zero)
  have hden' : (0 : ℚ) < den := Nat.cast_pos.2 (Nat.pos_of_ne_zero hden)
  have hdistance : (s.distance num den : ℚ) = |(s.num : ℚ) * den - num * s.den| := by
    unfold distance
    rcases le_total (s.num * den) (num * s.den) with hle | hle
    · rw [Nat.sub_eq_zero_of_le hle, Nat.zero_add, Nat.cast_sub hle, abs_of_nonpos]
      · push_cast
        ring
      · exact sub_nonpos.2 (by exact_mod_cast hle)
    · rw [Nat.sub_eq_zero_of_le hle, Nat.add_zero, Nat.cast_sub hle, abs_of_nonneg]
      · push_cast
        ring
      · exact sub_nonneg.2 (by exact_mod_cast hle)
  rw [← Scientific.num_div_den, div_sub_div _ _ hsden.ne' hden'.ne', abs_div,
    abs_of_pos (mul_pos hsden hden'), hdistance, mul_comm (s.den : ℚ) num]

/-- What is found is a neighbour. None that is rounded to the double is nearer, and another one that
is as near is odd. -/
theorem exists_neighbour?_eq {s : Scientific} (hk : k = highestDecimal num den - n + 1)
    (h : neighbour? bits num den n = some s) :
    ∃ i, (i = gridFloor num den k ∨ i = gridFloor num den k + 1) ∧ s = ⟨i, k⟩ ∧
      ∀ j, j = gridFloor num den k ∨ j = gridFloor num den k + 1 → Scientific.bits ⟨j, k⟩ = bits →
        s.distance num den ≤ Scientific.distance ⟨j, k⟩ num den ∧
          (s.distance num den = Scientific.distance ⟨j, k⟩ num den → j = i ∨ j % 2 = 1) := by
  subst hk
  unfold neighbour? at h
  dsimp only at h
  split at h <;> rename_i hbelow habove
  · obtain rfl := Option.some.inj h
    rcases nearer_mem num den ⟨gridFloor num den (highestDecimal num den - n + 1), _⟩
      ⟨gridFloor num den (highestDecimal num den - n + 1) + 1, _⟩ with
      ⟨heq, hle, htie⟩ | ⟨heq, hle, htie⟩
    · rw [heq]
      refine ⟨_, .inl rfl, rfl, ?_⟩
      rintro j (rfl | rfl) -
      · exact ⟨le_rfl, fun _ => .inl rfl⟩
      · refine ⟨hle, fun hsame => .inr ?_⟩
        have heven := htie hsame
        dsimp only at heven
        omega
    · rw [heq]
      refine ⟨_, .inr rfl, rfl, ?_⟩
      rintro j (rfl | rfl) -
      · exact ⟨hle, fun hsame => .inr (htie hsame)⟩
      · exact ⟨le_rfl, fun _ => .inl rfl⟩
  · obtain rfl := Option.some.inj h
    refine ⟨_, .inl rfl, rfl, ?_⟩
    rintro j (rfl | rfl) hj
    · exact ⟨le_rfl, fun _ => .inl rfl⟩
    · exact absurd hj (beq_eq_false_iff_ne.1 habove)
  · obtain rfl := Option.some.inj h
    refine ⟨_, .inr rfl, rfl, ?_⟩
    rintro j (rfl | rfl) hj
    · exact absurd hj (beq_eq_false_iff_ne.1 hbelow)
    · exact ⟨le_rfl, fun _ => .inl rfl⟩
  · cases h

/-- No decimal on the grid that is rounded to the double is nearer than the one that is found, and
another one that is as near is odd. -/
theorem neighbour?_nearest {s : Scientific} (hden : den ≠ 0) (hself : nearestBits num den = bits)
    (hk : k = highestDecimal num den - n + 1) (h : neighbour? bits num den n = some s) {a : Nat}
    (ha : Scientific.bits ⟨a, k⟩ = bits) :
    |s.digits * (10 : ℚ) ^ s.exponent - num / den| ≤ |(a : ℚ) * 10 ^ k - num / den| ∧
      (|s.digits * (10 : ℚ) ^ s.exponent - num / den| = |(a : ℚ) * 10 ^ k - num / den| →
        s = ⟨a, k⟩ ∨ a % 2 = 1) := by
  obtain ⟨i, -, rfl, hnearest⟩ := exists_neighbour?_eq hk h
  obtain ⟨j, hj, hbits, hcase⟩ := exists_neighbour_of_grid hden hself ha
  obtain ⟨hle, htie⟩ := hnearest j hj hbits
  have hi := Scientific.distance_div ⟨i, k⟩ num hden
  have hj' := Scientific.distance_div ⟨j, k⟩ num hden
  have hpos : (0 : ℚ) < Scientific.den ⟨i, k⟩ * den :=
    mul_pos (Nat.cast_pos.2 (Nat.pos_of_ne_zero (Scientific.den_ne_zero _)))
      (Nat.cast_pos.2 (Nat.pos_of_ne_zero hden))
  have hle' : |(i : ℚ) * 10 ^ k - num / den| ≤ |(j : ℚ) * 10 ^ k - num / den| := by
    rw [hi, hj']
    exact div_le_div_of_nonneg_right (Nat.cast_le.2 hle) hpos.le
  rcases hcase with rfl | hless
  · refine ⟨hle', fun hsame => ?_⟩
    rw [hi, hj'] at hsame
    refine (htie ?_).imp_left (fun heq => by rw [heq])
    exact_mod_cast (div_left_inj' hpos.ne').1 hsame
  · exact ⟨(hle'.trans_lt hless).le, fun hsame => absurd hsame (hle'.trans_lt hless).ne⟩

/-- What is found has at most so many digits. -/
theorem significantLength_le_of_neighbour? {s : Scientific} (hnum : num ≠ 0) (hden : den ≠ 0)
    (hn : 0 < n) (h : neighbour? bits num den n = some s) : significantLength s.digits ≤ n := by
  obtain ⟨k, hk⟩ : ∃ k, k = highestDecimal num den - n + 1 := ⟨_, rfl⟩
  obtain ⟨i, hi, rfl, -⟩ := exists_neighbour?_eq hk h
  have hfloor : gridFloor num den k < 10 ^ n := by
    have hlow := (gridFloor_mem num den k).1.trans_lt (lt_ten_zpow_highestDecimal hnum hden)
    rw [show highestDecimal num den + 1 = n + k by omega, zpow_add₀ (by norm_num), zpow_natCast] at hlow
    exact_mod_cast lt_of_mul_lt_mul_right hlow (Decimal.ten_zpow_pos k).le
  show significantLength i ≤ n
  rw [significantLength_le_iff]
  rcases (show i ≤ 10 ^ n by omega).lt_or_eq with hlt | heq
  · exact ⟨i, 0, hlt, by rw [pow_zero, Nat.mul_one]⟩
  · exact ⟨1, n, Nat.one_lt_pow hn.ne' (by decide), by rw [heq, Nat.one_mul]⟩

/-- There is something to find among so many digits, if a decimal with as many is rounded to the
double. -/
theorem neighbour?_ne_none (hnum : num ≠ 0) (hden : den ≠ 0) (hself : nearestBits num den = bits)
    (hn : 0 < n) {a : Nat} {e : Int} (hdigits : a < 10 ^ n) (ha : Scientific.bits ⟨a, e⟩ = bits) :
    neighbour? bits num den n ≠ none := by
  obtain ⟨j, hj, -⟩ := exists_grid_of_digits hnum hden hself hn rfl hdigits ha
  obtain ⟨i, hi, hbits, -⟩ := exists_neighbour_of_grid hden hself hj
  refine Option.isSome_iff_ne_none.1 (isSome_neighbour? rfl ?_)
  rcases hi with rfl | rfl
  · exact .inl hbits
  · exact .inr hbits

/-- What the search finds first has the fewest digits, and it is the nearest with as few. Another one
that is as near has an odd last digit. -/
theorem firstNeighbour_shortest {fuel : Nat} {s : Scientific} (hnum : num ≠ 0) (hden : den ≠ 0)
    (hself : nearestBits num den = bits) (hbits : bits ≠ 0)
    (h : firstNeighbour bits num den fuel 1 = some s) {c : Nat} {e : Int}
    (hc : Scientific.bits ⟨c, e⟩ = bits) :
    significantLength s.digits ≤ significantLength c ∧
      (significantLength c = significantLength s.digits →
        |s.digits * (10 : ℚ) ^ s.exponent - num / den| ≤ |(c : ℚ) * 10 ^ e - num / den| ∧
          (|s.digits * (10 : ℚ) ^ s.exponent - num / den| = |(c : ℚ) * 10 ^ e - num / den| →
            (c : ℚ) * 10 ^ e = s.digits * 10 ^ s.exponent ∨ lastDigit c % 2 = 1)) := by
  obtain ⟨n, hn, -, hfound, hbefore⟩ := firstNeighbour_first h
  have hfew := significantLength_le_of_neighbour? hnum hden hn hfound
  obtain ⟨a, i, ha, hai⟩ := significantLength_le_iff.1 (le_refl (significantLength c))
  have heq : (a : ℚ) * 10 ^ (i + e) = c * 10 ^ e := by
    rw [hai, zpow_add₀ (by norm_num), zpow_natCast]
    push_cast
    ring
  have ha' : Scientific.bits ⟨a, i + e⟩ = bits := (Scientific.bits_congr heq).trans hc
  have hpos : 0 < significantLength c := by
    by_contra hzero
    rw [Nat.eq_zero_of_not_pos hzero, pow_zero, Nat.lt_one_iff] at ha
    apply hbits
    rw [← ha', Scientific.bits, Scientific.num, ha, Nat.zero_mul, ite_self, nearestBits, if_pos rfl]
  have hmost : n ≤ significantLength c := by
    by_contra hless
    exact neighbour?_ne_none hnum hden hself hpos ha ha' (hbefore _ hpos (Nat.not_le.1 hless))
  refine ⟨hfew.trans hmost, fun hsame => ?_⟩
  have hn' : significantLength c = n := (hsame.le.trans hfew).antisymm hmost
  rw [hn'] at ha
  obtain ⟨j, hj, hcase⟩ := exists_grid_of_digits hnum hden hself hn rfl ha ha'
  obtain ⟨hle, htie⟩ := neighbour?_nearest hden hself rfl hfound hj
  rw [heq] at hcase
  rcases hcase with hsame | hless
  · rw [hsame]
    refine ⟨hle, fun heq => (htie heq).imp (fun hs => by rw [hs]) (fun hodd => ?_)⟩
    rw [(digits_congr hsame).2]
    exact lastDigit_of_odd hodd
  · exact ⟨(hle.trans_lt hless).le, fun heq => absurd heq (hle.trans_lt hless).ne⟩

end

/-! ### Decimals that are rounded to a double -/

namespace Decimal

def isNegative : Decimal → Bool
  | finite s _ _ => s
  | infinite s => s
  | nan s _ _ => s

def significantDigits : Decimal → Nat
  | finite _ c _ => significantLength c
  | _ => 0

def lastDigit : Decimal → Nat
  | finite _ c _ => Appraisal.lastDigit c
  | _ => 0

/-- A finite double is the one that a finite decimal is rounded to: their signs are the same, also that
of a zero, no finite double is nearer to the decimal, and if another one is as near, the double has an
even significand. From half a place past the largest double on a decimal is rounded to none. -/
structure RoundsTo (d : Decimal) (x : Float) : Prop where
  isFinite : d.isFinite = true ∧ x.isFinite = true
  inRange : |d.toRat| < leastTooLarge
  isNegative_eq : (Binary.ofFloat x).isNegative = d.isNegative
  nearest : ∀ y : Float, y.isFinite = true →
    |(Binary.ofFloat x).toRat - d.toRat| ≤ |(Binary.ofFloat y).toRat - d.toRat|
  even : ∀ y : Float, y.isFinite = true →
    |(Binary.ofFloat x).toRat - d.toRat| = |(Binary.ofFloat y).toRat - d.toRat| →
    (Binary.ofFloat y).toRat = (Binary.ofFloat x).toRat ∨ (Binary.ofFloat x).significand % 2 = 0

section

variable {s s' : Bool} {c bits : Nat} {e : Int}

theorem abs_signedValue_sub :
    |signedValue s bits - number s c e| = |valueOfBits bits - c * 10 ^ e| := by
  unfold signedValue number
  cases s with
  | false => rfl
  | true =>
      rw [if_pos rfl, if_pos rfl, neg_mul, ← neg_sub', abs_neg]

/-- A double with the other sign is as far off as both are from zero. -/
theorem abs_signedValue_sub_of_ne (h : s' ≠ s) :
    |signedValue s' bits - number s c e| = valueOfBits bits + c * 10 ^ e := by
  have hnonneg : 0 ≤ valueOfBits bits + c * 10 ^ e :=
    add_nonneg (valueOfBits_nonneg bits) (by positivity)
  unfold signedValue number
  cases s with
  | false =>
      obtain rfl : s' = true := by simpa using h
      rw [if_pos rfl, if_neg Bool.false_ne_true, ← neg_add', abs_neg, abs_of_nonneg hnonneg]
  | true =>
      obtain rfl : s' = false := by simpa using h
      rw [if_neg Bool.false_ne_true, if_pos rfl, neg_mul, sub_neg_eq_add, abs_of_nonneg hnonneg]

theorem bits_eq_iff (h : bits < infiniteBits) : Scientific.bits ⟨c, e⟩ = bits ↔
    (c : ℚ) * 10 ^ e < leastTooLarge ∧ IsRoundedTo (c * 10 ^ e) bits := by
  rw [Scientific.bits, nearestBits_eq_iff (Scientific.den_ne_zero _) h, Scientific.num_div_den]

/-- Among the doubles with the sign of a decimal those are compared that the rounding compares. -/
theorem RoundsTo.isRoundedTo (h : bits < infiniteBits)
    (hd : (finite s c e).RoundsTo (signed s bits)) : IsRoundedTo (c * 10 ^ e) bits := by
  have hfinite {bits' : Nat} (h' : bits' < infiniteBits) : (signed s bits').isFinite = true :=
    (isFinite_signed_iff h'.le).2 h'.ne
  have hnearest := hd.nearest
  have heven := hd.even
  rw [toRat_signed h] at hnearest heven
  constructor
  · intro bits' h'
    have hle := hnearest (signed s bits') (hfinite h')
    rwa [toRat_signed h', toRat, abs_signedValue_sub, abs_signedValue_sub] at hle
  · intro bits' h' htie
    have hcase := heven (signed s bits') (hfinite h')
    rw [toRat_signed h', toRat, abs_signedValue_sub, abs_signedValue_sub,
      significand_signed_mod_two h] at hcase
    refine (hcase htie).imp_left (fun heq => ?_)
    rwa [signedValue_inj, valueOfBits_inj h' h] at heq

/-- A double with the other sign is not nearer than a zero. -/
theorem roundsTo_of_isRoundedTo (h : bits < infiniteBits) (hrange : (c : ℚ) * 10 ^ e < leastTooLarge)
    (hv : IsRoundedTo (c * 10 ^ e) bits) : (finite s c e).RoundsTo (signed s bits) := by
  have hzero : |valueOfBits 0 - (c : ℚ) * 10 ^ e| = c * 10 ^ e := by
    rw [valueOfBits_zero, zero_sub, abs_neg,
      abs_of_nonneg (mul_nonneg (Nat.cast_nonneg c) (ten_zpow_pos e).le)]
  have hleast := hv.nearest 0 (by decide)
  rw [hzero] at hleast
  refine ⟨⟨rfl, (isFinite_signed_iff h.le).2 h.ne⟩, ?_, isNegative_signed h s, ?_, ?_⟩
  · rwa [toRat, abs_number]
  · intro y hy
    obtain ⟨s', bits', h', rfl⟩ := exists_eq_signed_of_isFinite hy
    rw [toRat_signed h, toRat_signed h', toRat, abs_signedValue_sub]
    by_cases hs : s' = s
    · rw [hs, abs_signedValue_sub]
      exact hv.nearest bits' h'
    · rw [abs_signedValue_sub_of_ne hs]
      exact hleast.trans (le_add_of_nonneg_left (valueOfBits_nonneg bits'))
  · intro y hy htie
    obtain ⟨s', bits', h', rfl⟩ := exists_eq_signed_of_isFinite hy
    rw [toRat_signed h, toRat_signed h', toRat, abs_signedValue_sub] at htie
    rw [toRat_signed h, toRat_signed h', significand_signed_mod_two h]
    by_cases hs : s' = s
    · rw [hs, abs_signedValue_sub] at htie
      refine (hv.even bits' h' htie).imp_left (fun heq => ?_)
      rw [hs, heq]
    · -- then the other double is a zero, and the double is just as near as one
      rw [abs_signedValue_sub_of_ne hs] at htie
      have hnonneg := valueOfBits_nonneg bits'
      have hvalue : valueOfBits bits' = valueOfBits 0 := by
        rw [valueOfBits_zero]
        linarith
      rw [hvalue, valueOfBits_zero, zero_add] at htie
      rw [valueOfBits_inj h' (by decide)] at hvalue
      refine (hv.even 0 (by decide) (htie.trans hzero.symm)).imp_left (fun heq => ?_)
      rw [hvalue, ← heq, signedValue_zero, signedValue_zero]

theorem roundsTo_iff (h : bits < infiniteBits) :
    (finite s c e).RoundsTo (signed s' bits) ↔ s' = s ∧ Scientific.bits ⟨c, e⟩ = bits := by
  rw [bits_eq_iff h]
  constructor
  · intro hd
    have hsign := hd.isNegative_eq
    rw [isNegative_signed h] at hsign
    obtain rfl : s' = s := hsign
    have hrange := hd.inRange
    rw [toRat, abs_number] at hrange
    exact ⟨rfl, hrange, hd.isRoundedTo h⟩
  · rintro ⟨rfl, hrange, hv⟩
    exact roundsTo_of_isRoundedTo h hrange hv

end

theorem toFloat?_finite (s : Bool) (c : Nat) (e : Int) :
    (finite s c e).toFloat? = some (signed s (Scientific.bits ⟨c, e⟩)) := by
  unfold toFloat?
  simp only [Numeral.toFloat_eq_nearest]
  unfold Numeral.coefficient Numeral.scale
  simp only [List.append_nil, List.length_nil, Nat.cast_zero, sub_zero, digitsValue_map_digitsOf]
  rfl

/-- A finite decimal is converted to the double that it is rounded to. -/
theorem toFloat?_eq_some_iff {d : Decimal} {x : Float} (hd : d.isFinite = true)
    (hx : x.isFinite = true) : d.toFloat? = some x ↔ d.RoundsTo x := by
  obtain ⟨s, c, e, rfl, -⟩ := (show d.HasValue d.toRat from ⟨hd, rfl⟩).exists_finite
  rw [toFloat?_finite, Option.some.injEq]
  constructor
  · rintro rfl
    have hle : Scientific.bits ⟨c, e⟩ ≤ infiniteBits := nearestBits_le _ _
    exact (roundsTo_iff (hle.lt_of_ne ((isFinite_signed_iff hle).1 hx))).2 ⟨rfl, rfl⟩
  · intro h
    obtain ⟨s', bits, hbits, rfl⟩ := exists_eq_signed_of_isFinite hx
    obtain ⟨rfl, rfl⟩ := (roundsTo_iff hbits).1 h
    rfl

/-! ### Money -/

/-- The decimal is the shortest of those that are rounded to the double: it is one of them, none of them
has fewer digits, and none with as few is nearer to the double. If another one with as few digits is as
near, this has the odd last digit. -/
structure IsShortestFor (d : Decimal) (x : Float) : Prop where
  roundsTo : d.RoundsTo x
  fewest : ∀ d' : Decimal, d'.RoundsTo x → d.significantDigits ≤ d'.significantDigits
  nearest : ∀ d' : Decimal, d'.RoundsTo x → d'.significantDigits = d.significantDigits →
    |d.toRat - (Binary.ofFloat x).toRat| ≤ |d'.toRat - (Binary.ofFloat x).toRat|
  even : ∀ d' : Decimal, d'.RoundsTo x → d'.significantDigits = d.significantDigits →
    |d.toRat - (Binary.ofFloat x).toRat| = |d'.toRat - (Binary.ofFloat x).toRat| →
    d'.toRat = d.toRat ∨ d'.lastDigit % 2 = 1

theorem RoundsTo.exists_finite {d : Decimal} {x : Float} (h : d.RoundsTo x) :
    ∃ s c e, d = finite s c e := by
  obtain ⟨s, c, e, hd, -⟩ := (show d.HasValue d.toRat from ⟨h.isFinite.1, rfl⟩).exists_finite
  exact ⟨s, c, e, hd⟩

/-- A double is rounded from a decimal of its own sign, with its own bits. -/
theorem RoundsTo.unique {d : Decimal} {x y : Float} (hx : d.RoundsTo x) (hy : d.RoundsTo y) :
    x = y := by
  obtain ⟨s, c, e, rfl⟩ := hx.exists_finite
  obtain ⟨s₁, bits₁, h₁, rfl⟩ := exists_eq_signed_of_isFinite hx.isFinite.2
  obtain ⟨s₂, bits₂, h₂, rfl⟩ := exists_eq_signed_of_isFinite hy.isFinite.2
  obtain ⟨rfl, hbits₁⟩ := (roundsTo_iff h₁).1 hx
  obtain ⟨rfl, hbits₂⟩ := (roundsTo_iff h₂).1 hy
  rw [← hbits₁, ← hbits₂]

variable {x y : Float} {negative : Bool} {m : Nat} {q : Int}

/-- A zero is money without digits. -/
theorem isShortestFor_zero (e : Int) (negative : Bool) :
    (finite negative 0 e).IsShortestFor (signed negative 0) := by
  have hbits : Scientific.bits ⟨0, e⟩ = 0 := by
    rw [Scientific.bits, nearestBits, if_pos]
    rw [Scientific.num, Nat.zero_mul, ite_self]
  have hlength : (finite negative 0 e).significantDigits = 0 := by
    rw [significantDigits, significantLength, dif_pos rfl]
  have hvalue : |(finite negative 0 e).toRat - (Binary.ofFloat (signed negative 0)).toRat| = 0 := by
    rw [toRat_signed (by decide), signedValue_zero, toRat, number_zero, sub_zero, abs_zero]
  refine ⟨(roundsTo_iff (by decide)).2 ⟨rfl, hbits⟩, fun d _ => ?_, fun d _ _ => ?_,
    fun d _ _ htie => .inl ?_⟩
  · rw [hlength]
    exact Nat.zero_le _
  · rw [hvalue]
    exact abs_nonneg _
  · rw [hvalue] at htie
    exact (sub_eq_zero.1 (abs_eq_zero.1 htie.symm)).trans (sub_eq_zero.1 (abs_eq_zero.1 hvalue)).symm

theorem isShortestFor_of_shortest (hx : Binary.ofFloat x = .finite negative m q) (hm : m ≠ 0)
    {c : Nat} {e : Int}
    (hvalue : (c : ℚ) * 10 ^ e = (shortest m q).digits * (10 : ℚ) ^ (shortest m q).exponent) :
    (finite negative c e).IsShortestFor x := by
  obtain ⟨bits, num, den, h, rfl, hden, hratio, hself, hfound⟩ := exists_firstNeighbour_eq hx hm
  obtain ⟨-, hq, -⟩ := mem_of_ofFloat hx
  have hbits : bits ≠ 0 := hself ▸ nearestBits_ne_zero hm hq hden hratio
  have hnum : num ≠ 0 := by
    rintro rfl
    exact hbits (by rw [← hself, nearestBits, if_pos rfl])
  have hread : Scientific.bits ⟨c, e⟩ = bits :=
    (Scientific.bits_congr hvalue).trans (firstNeighbour_eq_some hfound).1
  have hself' : (num : ℚ) / den = valueOfBits bits := by rw [hratio, valueOfBits_of_ofFloat h hx]
  have hlength := (digits_congr hvalue).1
  -- on the side of their sign, what is compared is how far decimals are from the ratio
  have hdistance (c' : Nat) (e' : Int) : |(finite negative c' e').toRat -
      (Binary.ofFloat (signed negative bits)).toRat| = |(c' : ℚ) * 10 ^ e' - num / den| := by
    rw [abs_sub_comm, toRat_signed h, toRat, abs_signedValue_sub, ← hself', abs_sub_comm]
  have hcompare {d : Decimal} (hd : d.RoundsTo (signed negative bits)) :
      ∃ c' e', d = finite negative c' e' ∧ Scientific.bits ⟨c', e'⟩ = bits := by
    obtain ⟨s, c', e', rfl⟩ := hd.exists_finite
    obtain ⟨rfl, hread'⟩ := (roundsTo_iff h).1 hd
    exact ⟨c', e', rfl, hread'⟩
  have hfirst {c' : Nat} {e' : Int} := @firstNeighbour_shortest bits num den 17 _ hnum hden hself
    hbits hfound c' e'
  rw [← hlength, ← hvalue] at hfirst
  refine ⟨(roundsTo_iff h).2 ⟨rfl, hread⟩, fun d hd => ?_, fun d hd hsame => ?_,
    fun d hd hsame htie => ?_⟩ <;>
    obtain ⟨c', e', rfl, hread'⟩ := hcompare hd
  · exact (hfirst hread').1
  · rw [hdistance, hdistance]
    exact ((hfirst hread').2 hsame).1
  · rw [hdistance, hdistance] at htie
    refine (((hfirst hread').2 hsame).2 htie).imp_left (fun heq => ?_)
    rw [toRat, toRat, number_congr heq]

theorem isShortestFor_ofFloat (h : x.isFinite = true) : (ofFloat x).IsShortestFor x := by
  obtain ⟨negative, m, q, hx⟩ := exists_ofFloat_eq_finite h
  obtain ⟨c, e, heq, hvalue⟩ := exists_ofFloat_eq hx
  rw [heq]
  by_cases hm : m = 0
  · rw [if_pos hm, mul_eq_zero, Nat.cast_eq_zero] at hvalue
    obtain rfl : c = 0 := hvalue.resolve_right (ten_zpow_pos e).ne'
    obtain ⟨bits, place, hs, -, -, rfl⟩ := exists_eq_signed hx
    rw [hs.bits_eq_zero_iff.2 hm]
    exact isShortestFor_zero e negative
  · rw [if_neg hm] at hvalue
    exact isShortestFor_of_shortest hx hm hvalue

/-! ### The order of money -/

theorem bits_eq_zero_of_le {c : Nat} {e : Int} (h : (c : ℚ) * 10 ^ e ≤ 0) :
    Scientific.bits ⟨c, e⟩ = 0 := by
  have hzero : Scientific.bits ⟨0, 0⟩ = 0 := by decide
  have hle := @Scientific.bits_mono ⟨c, e⟩ ⟨0, 0⟩ (by simpa using h)
  omega

/-- The greater of two decimals is not rounded to the smaller double. -/
theorem RoundsTo.mono {d d' : Decimal} (hx : d.RoundsTo x) (hy : d'.RoundsTo y)
    (h : d.toRat ≤ d'.toRat) : (Binary.ofFloat x).toRat ≤ (Binary.ofFloat y).toRat := by
  obtain ⟨s, c, e, rfl⟩ := hx.exists_finite
  obtain ⟨s', c', e', rfl⟩ := hy.exists_finite
  obtain ⟨s₁, bits, hbits, rfl⟩ := exists_eq_signed_of_isFinite hx.isFinite.2
  obtain ⟨s₂, bits', hbits', rfl⟩ := exists_eq_signed_of_isFinite hy.isFinite.2
  obtain ⟨rfl, hread⟩ := (roundsTo_iff hbits).1 hx
  obtain ⟨rfl, hread'⟩ := (roundsTo_iff hbits').1 hy
  rw [toRat_signed hbits, toRat_signed hbits']
  cases s₁ <;> cases s₂
  · have hle : bits ≤ bits' := hread ▸ hread' ▸ Scientific.bits_mono h
    exact (valueOfBits_le_iff hbits hbits').2 hle
  · -- both are zeros
    have hpos : (0 : ℚ) ≤ c * 10 ^ e := mul_nonneg (Nat.cast_nonneg c) (ten_zpow_pos e).le
    have hpos' : (0 : ℚ) ≤ c' * 10 ^ e' := mul_nonneg (Nat.cast_nonneg c') (ten_zpow_pos e').le
    have hle : (c : ℚ) * 10 ^ e ≤ -(c' * 10 ^ e') := by
      rw [← neg_mul]
      exact h
    rw [← hread, ← hread', bits_eq_zero_of_le (by linarith), bits_eq_zero_of_le (by linarith),
      signedValue_zero, signedValue_zero]
  · exact (neg_nonpos.2 (valueOfBits_nonneg bits)).trans (valueOfBits_nonneg bits')
  · have hle : (c' : ℚ) * 10 ^ e' ≤ c * 10 ^ e := by
      rw [← neg_le_neg_iff, ← neg_mul, ← neg_mul]
      exact h
    have hle' : bits' ≤ bits := hread ▸ hread' ▸ Scientific.bits_mono hle
    exact neg_le_neg ((valueOfBits_le_iff hbits' hbits).2 hle')

theorem toRat_ofFloat_zero (s : Bool) : (ofFloat (signed s 0)).toRat = 0 := by
  have hzero : Binary.ofFloat (signed s 0) = .finite s 0 leastExponent := by
    rw [ofFloat_signed (by decide), if_pos (Nat.zero_div _)]
  exact (hasValue_ofFloat hzero).2

/-- Zeros are equal as money, and other doubles that are equal are the same. -/
theorem toRat_ofFloat_congr (hx : x.isFinite = true) (hy : y.isFinite = true)
    (h : (Binary.ofFloat x).toRat = (Binary.ofFloat y).toRat) :
    (ofFloat x).toRat = (ofFloat y).toRat := by
  obtain ⟨s, bits, hbits, rfl⟩ := exists_eq_signed_of_isFinite hx
  obtain ⟨s', bits', hbits', rfl⟩ := exists_eq_signed_of_isFinite hy
  rw [toRat_signed hbits, toRat_signed hbits'] at h
  by_cases hs : s' = s
  · rw [hs, signedValue_inj, valueOfBits_inj hbits hbits'] at h
    rw [hs, h]
  · obtain ⟨rfl, rfl⟩ := bits_eq_zero_of_signedValue hbits hbits' hs h
    rw [toRat_ofFloat_zero, toRat_ofFloat_zero]

theorem toRat_ofFloat_le_iff (hx : x.isFinite = true) (hy : y.isFinite = true) :
    (ofFloat x).toRat ≤ (ofFloat y).toRat ↔ x ≤ y := by
  rw [le_iff_toRat_le hx hy]
  have hmono := (isShortestFor_ofFloat hx).roundsTo.mono (isShortestFor_ofFloat hy).roundsTo
  have hmono' := (isShortestFor_ofFloat hy).roundsTo.mono (isShortestFor_ofFloat hx).roundsTo
  refine ⟨hmono, fun hle => ?_⟩
  rcases hle.lt_or_eq with hlt | heq
  · by_contra hless
    exact absurd (hmono' (not_le.1 hless).le) (not_le.2 hlt)
  · exact (toRat_ofFloat_congr hx hy heq).le

/-- As money every finite double is the shortest decimal that is rounded to it, and the nearest of those
that are as short. Different doubles are different as money, and their order is the same. -/
theorem ofFloat_isShortest :
    (∀ x : Float, x.isFinite = true →
      (ofFloat x).IsShortestFor x ∧ (ofFloat x).toFloat? = some x) ∧
    (∀ x y : Float, x.isFinite = true → y.isFinite = true → ofFloat x = ofFloat y → x = y) ∧
    ∀ x y : Float, x.isFinite = true → y.isFinite = true →
      ∃ o, (ofFloat x).order (ofFloat y) = .ok o ∧ (x ≤ y ↔ o ≠ .gt) := by
  refine ⟨fun x hx => ?_, fun x y hx hy heq => ?_, fun x y hx hy => ?_⟩
  · have hshortest := isShortestFor_ofFloat hx
    exact ⟨hshortest, (toFloat?_eq_some_iff hshortest.roundsTo.isFinite.1 hx).2 hshortest.roundsTo⟩
  · exact (isShortestFor_ofFloat hx).roundsTo.unique (heq ▸ (isShortestFor_ofFloat hy).roundsTo)
  · have hcompare := compare?_eq (a := ofFloat x) (b := ofFloat y)
      ⟨(isShortestFor_ofFloat hx).roundsTo.isFinite.1, rfl⟩
      ⟨(isShortestFor_ofFloat hy).roundsTo.isFinite.1, rfl⟩
    refine ⟨compare (ofFloat x).toRat (ofFloat y).toRat, ?_, ?_⟩
    · rw [order, hcompare]
    · rw [← toRat_ofFloat_le_iff hx hy]
      exact compare_le_iff_le.symm

/-- The least double above zero and a tenth. -/
theorem ofFloat_isShortest_of_least :
    let least : Float := Float.ofBits 1
    let tenth : Float := 0.1
    least.isFinite = true ∧ tenth.isFinite = true ∧ ofFloat least = finite false 5 (-324) ∧
      ofFloat tenth = finite false 1 (-1) ∧ (ofFloat least).IsShortestFor least ∧
      ofFloat least ≠ ofFloat tenth ∧
      ∃ o, (ofFloat least).order (ofFloat tenth) = .ok o ∧ (least ≤ tenth ↔ o ≠ .gt) := by
  intro least tenth
  have hleast : least.isFinite = true := by decide +kernel
  have htenth : tenth.isFinite = true := by decide +kernel
  have hne : least ≠ tenth := by decide +kernel
  obtain ⟨hshortest, hinjective, hmonotone⟩ := ofFloat_isShortest
  refine ⟨hleast, htenth, by decide +kernel, by decide +kernel, (hshortest least hleast).1,
    fun heq => hne (hinjective least tenth hleast htenth heq), hmonotone least tenth hleast htenth⟩

/-- This double is halfway between two decimals with sixteen digits. -/
example : ofFloat 8.0000457763671875 = finite false 8000045776367188 (-15) := by
  decide +kernel

end Decimal

end Appraisal
