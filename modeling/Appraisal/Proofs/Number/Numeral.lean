import Appraisal.Number.Numeral
import Appraisal.Proofs.Decimal.Double
import Appraisal.Proofs.Number.Monotone
import Appraisal.Proofs.Number.Operations

/-!
# The double of a numeral and the shortest decimal of a double

A numeral of any length becomes the double nearest to it, with its sign. That double is finite just
below half a place past the largest one. The numbers that the first digit alone settles are no
exception.

The search for the shortest decimal of a double ends with one that reads back as the double, so its
digits are not all zero and it is below half a place past the largest double. Its last digit does not
stand arbitrarily far behind the point. The search does end, since the step between decimals with
seventeen digits is small beside the gap between doubles. The main statements: `shortest_mem` and
`signed_shortest`.
-/

namespace Appraisal

open Binary

/-! ### Numerals -/

def Numeral.magnitude (n : Numeral) : ℚ :=
  n.coefficient * 10 ^ n.scale

theorem Numeral.magnitude_nonneg (n : Numeral) : 0 ≤ n.magnitude := by
  unfold magnitude
  positivity

namespace Binary

theorem leastTooLarge_le_ten_zpow : (leastTooLarge : ℚ) ≤ 10 ^ (400 : Int) := by
  have hnat : leastTooLarge ≤ tenPow 400 := by decide +kernel
  calc (leastTooLarge : ℚ) ≤ (tenPow 400 : Nat) := Nat.cast_le.2 hnat
    _ = 10 ^ ((400 : Nat) : Int) := by rw [tenPow_eq, Nat.cast_pow, Nat.cast_ofNat, zpow_natCast]

end Binary

namespace Numeral

open Decimal

/-- The numbers that the first digit alone settles are rounded to the double nearest to them, too. -/
theorem toFloat_eq_nearest (n : Numeral) :
    n.toFloat = nearest n.negative (Scientific.num ⟨n.coefficient, n.scale⟩)
      (Scientific.den ⟨n.coefficient, n.scale⟩) := by
  have hvalue := Scientific.num_div_den ⟨n.coefficient, n.scale⟩
  have hden := Scientific.den_ne_zero ⟨n.coefficient, n.scale⟩
  unfold toFloat nearest
  dsimp only at hvalue ⊢
  split
  · rename_i hzero
    have hnum : Scientific.num ⟨n.coefficient, n.scale⟩ = 0 := by
      rw [Scientific.num, hzero, Nat.zero_mul, ite_self]
    rw [nearestBits, if_pos hnum]
  · rename_i hne
    have hlow := le_of_length hne n.scale
    have hhigh := lt_of_length n.coefficient n.scale
    split
    · rename_i hlarge
      refine congrArg _ ((nearestBits_le _ _).eq_or_lt.resolve_right (fun hlt => ?_)).symm
      rw [nearestBits_lt_infiniteBits_iff hden, hvalue] at hlt
      have hten : (10 : ℚ) ^ (400 : Int) ≤ n.coefficient * 10 ^ n.scale :=
        (zpow_le_zpow_right₀ (by norm_num) (by omega)).trans hlow
      exact absurd hlt (not_lt.2 (leastTooLarge_le_ten_zpow.trans hten))
    · split
      · rename_i hsmall
        have hbits : nearestBits 1 (tenPow 400) = 0 := by decide +kernel
        refine congrArg _ (Nat.le_zero.1 ?_).symm
        rw [← hbits]
        refine nearestBits_mono hden (tenPow_pos 400).ne' ?_
        rw [hvalue, Nat.cast_one, one_div, tenPow_eq, Nat.cast_pow, Nat.cast_ofNat, ← zpow_natCast,
          ← zpow_neg]
        exact hhigh.le.trans (zpow_le_zpow_right₀ (by norm_num) (by push_cast; omega))
      · rfl

theorem exists_toFloat_eq (n : Numeral) :
    ∃ bits ≤ infiniteBits, n.toFloat = signed n.negative bits ∧
      (bits < infiniteBits ↔ n.magnitude < leastTooLarge) := by
  refine ⟨_, nearestBits_le _ _, n.toFloat_eq_nearest, ?_⟩
  rw [nearestBits_lt_infiniteBits_iff (Scientific.den_ne_zero _), Scientific.num_div_den]
  rfl

theorem isNearest_toFloat {n : Numeral} (h : n.magnitude < 2 ^ (1022 : Int)) :
    IsNearest n.negative n.magnitude n.toFloat := by
  have hvalue := Scientific.num_div_den ⟨n.coefficient, n.scale⟩
  unfold magnitude at h ⊢
  rw [toFloat_eq_nearest]
  by_cases hzero : n.coefficient = 0
  · have hnum : Scientific.num ⟨n.coefficient, n.scale⟩ = 0 := by
      rw [Scientific.num, hzero, Nat.zero_mul, ite_self]
    rw [nearest, nearestBits, if_pos hnum, hzero, Nat.cast_zero, zero_mul]
    exact isNearest_zero n.negative
  · rw [← hvalue] at h ⊢
    exact isNearest_nearest n.negative (Scientific.num_ne_zero hzero) (Scientific.den_ne_zero _) h

end Numeral

/-! ### The search -/

variable {bits num den : Nat} {s : Scientific}

/-- The nearer neighbour is one of the two, and if the other one is as near, that is odd. -/
theorem nearer_mem (num den : Nat) (below above : Scientific) :
    (nearer num den below above = below ∧
      below.distance num den ≤ above.distance num den ∧
      (below.distance num den = above.distance num den → below.digits % 2 = 0)) ∨
    (nearer num den below above = above ∧
      above.distance num den ≤ below.distance num den ∧
      (above.distance num den = below.distance num den → below.digits % 2 = 1)) := by
  unfold nearer
  rcases lt_trichotomy (below.distance num den) (above.distance num den) with hlt | heq | hgt
  · rw [compare_lt_iff_lt.2 hlt]
    exact .inl ⟨rfl, hlt.le, fun heq => absurd heq hlt.ne⟩
  · rw [compare_eq_iff_eq.2 heq]
    by_cases heven : below.digits % 2 = 0
    · exact .inl ⟨if_pos heven, heq.le, fun _ => heven⟩
    · exact .inr ⟨if_neg heven, heq.ge, fun _ => Nat.mod_two_ne_zero.1 heven⟩
  · rw [compare_gt_iff_gt.2 hgt]
    exact .inr ⟨rfl, hgt.le, fun heq => absurd heq hgt.ne⟩

theorem neighbour?_eq_some {n : Nat} (h : neighbour? bits num den n = some s) :
    s.bits = bits ∧ s.exponent = highestDecimal num den - n + 1 := by
  unfold neighbour? at h
  dsimp only at h
  split at h <;> rename_i hbelow habove
  · obtain rfl := Option.some.inj h
    rcases nearer_mem num den ⟨gridFloor num den (highestDecimal num den - n + 1), _⟩
      ⟨gridFloor num den (highestDecimal num den - n + 1) + 1, _⟩ with ⟨heq, -⟩ | ⟨heq, -⟩
    · rw [heq]
      exact ⟨beq_iff_eq.1 hbelow, rfl⟩
    · rw [heq]
      exact ⟨beq_iff_eq.1 habove, rfl⟩
  · rw [← Option.some.inj h]
    exact ⟨beq_iff_eq.1 hbelow, rfl⟩
  · rw [← Option.some.inj h]
    exact ⟨beq_iff_eq.1 habove, rfl⟩
  · cases h

/-- The search takes the first grid that it finds something on. -/
theorem firstNeighbour_first {fuel n : Nat} (h : firstNeighbour bits num den fuel n = some s) :
    ∃ n', n ≤ n' ∧ n' < n + fuel ∧ neighbour? bits num den n' = some s ∧
      ∀ i, n ≤ i → i < n' → neighbour? bits num den i = none := by
  induction fuel generalizing n with
  | zero => cases h
  | succ fuel ih =>
      unfold firstNeighbour at h
      cases hn : neighbour? bits num den n with
      | some found =>
          rw [hn] at h
          obtain rfl := Option.some.inj h
          exact ⟨n, le_rfl, by omega, hn, fun i hi hlt => absurd hi (Nat.not_le.2 hlt)⟩
      | none =>
          rw [hn] at h
          obtain ⟨n', hle, hlt, hfound, hbefore⟩ := ih h
          refine ⟨n', by omega, by omega, hfound, fun i hi hlt => ?_⟩
          rcases hi.eq_or_lt with rfl | hi
          · exact hn
          · exact hbefore i hi hlt

theorem firstNeighbour_eq_some {fuel n : Nat} (h : firstNeighbour bits num den fuel n = some s) :
    s.bits = bits ∧ highestDecimal num den + 1 < s.exponent + (n + fuel) := by
  obtain ⟨n', -, hlt, hfound, -⟩ := firstNeighbour_first h
  obtain ⟨hbits, hexponent⟩ := neighbour?_eq_some hfound
  exact ⟨hbits, by omega⟩

theorem le_highestDecimal (hden : den ≤ twoPow 1074) : -400 ≤ highestDecimal num den := by
  unfold highestDecimal
  split
  · omega
  · have hpow : twoPow 1074 ≤ 10 ^ 400 := by decide +kernel
    have hpos := twoPow_pos 1074
    have hlength : decimalLength ((den - 1) / num) ≤ 400 := by
      rw [decimalLength_le_iff]
      have := Nat.div_le_self (den - 1) num
      omega
    omega

theorem twoPow_mono {j k : Nat} (h : j ≤ k) : twoPow j ≤ twoPow k :=
  Nat.pow_le_pow_right Nat.two_pos h

theorem exists_shortest_eq (m : Nat) {q : Int} (hq : leastExponent ≤ q) :
    ∃ num den : Nat, den ≠ 0 ∧ den ≤ twoPow 1074 ∧ (num : ℚ) / den = m * 2 ^ q ∧
      shortest m q = (firstNeighbour (nearestBits num den) num den 17 1).getD ⟨m, 0⟩ := by
  have hleast : leastExponent = -1074 := rfl
  unfold shortest
  by_cases hsign : 0 ≤ q
  · refine ⟨m * twoPow q.toNat, 1, Nat.one_ne_zero, twoPow_pos _, ?_, ?_⟩
    · rw [Nat.cast_mul, cast_twoPow_toNat hsign, Nat.cast_one, div_one]
    · simp only [if_pos hsign]
  · refine ⟨m, twoPow (-q).toNat, (twoPow_pos _).ne', ?_, ?_, ?_⟩
    · exact twoPow_mono (by omega)
    · rw [cast_twoPow_toNat (by omega), zpow_neg, div_inv_eq_mul]
    · simp only [if_neg hsign]

theorem nearestBits_ne_zero {m : Nat} {q : Int} (hm : m ≠ 0) (hq : leastExponent ≤ q) (hden : den ≠ 0)
    (h : (num : ℚ) / den = m * 2 ^ q) : nearestBits num den ≠ 0 := by
  have hleast : ((1 : Nat) : ℚ) / (twoPow 1074 : Nat) ≤ num / den := by
    have hone : (1 : ℚ) ≤ m := Nat.one_le_cast.2 (Nat.pos_of_ne_zero hm)
    rw [h, Nat.cast_one, one_div, twoPow_eq, Nat.cast_pow, Nat.cast_ofNat, ← zpow_natCast, ← zpow_neg]
    calc (2 : ℚ) ^ (-((1074 : Nat) : Int)) ≤ 2 ^ q := zpow_le_zpow_right₀ (by norm_num) hq
      _ ≤ m * 2 ^ q := le_mul_of_one_le_left (two_zpow_pos q).le hone
  have hmono := nearestBits_mono (twoPow_pos 1074).ne' hden hleast
  have hbits : nearestBits 1 (twoPow 1074) = 1 := by decide +kernel
  omega

/-- The shortest decimal of a double other than zero is a number that reads back as a finite double
other than zero. -/
theorem shortest_mem {x : Float} {negative : Bool} {m : Nat} {q : Int}
    (h : ofFloat x = .finite negative m q) (hm : m ≠ 0) :
    (shortest m q).digits ≠ 0 ∧ -1000 ≤ (shortest m q).exponent ∧
      (shortest m q).digits * (10 : ℚ) ^ (shortest m q).exponent < leastTooLarge := by
  obtain ⟨hsmall, hq, -⟩ := mem_of_ofFloat h
  obtain ⟨num, den, hden, hfew, hratio, heq⟩ := exists_shortest_eq m hq
  rw [heq]
  cases hfound : firstNeighbour (nearestBits num den) num den 17 1 with
  | none =>
      have hfits : m < leastTooLarge := hsmall.trans_le (by decide +kernel)
      rw [Option.getD_none, zpow_zero, mul_one]
      exact ⟨hm, by norm_num, Nat.cast_lt.2 hfits⟩
  | some s =>
      obtain ⟨hbits, hexponent⟩ := firstNeighbour_eq_some hfound
      have hlowest : -400 ≤ highestDecimal num den := le_highestDecimal hfew
      refine ⟨fun hzero => nearestBits_ne_zero hm hq hden hratio ?_, ?_, ?_⟩
      · rw [← hbits, Scientific.bits, nearestBits, if_pos]
        unfold Scientific.num
        rw [show s.digits = 0 from hzero, Nat.zero_mul, ite_self]
      · rw [Option.getD_some]
        omega
      · rw [Option.getD_some, ← Scientific.num_div_den, ← nearestBits_lt_infiniteBits_iff s.den_ne_zero,
          ← Scientific.bits, hbits, nearestBits_lt_infiniteBits_iff hden, hratio]
        exact magnitude_lt_leastTooLarge h

/-! ### Seventeen digits -/

theorem gridFloor_eq (num den : Nat) (k : Int) : gridFloor num den k = ⌊(num : ℚ) / den / 10 ^ k⌋₊ := by
  unfold gridFloor
  by_cases hk : 0 ≤ k
  · obtain ⟨j, rfl⟩ := Int.eq_ofNat_of_zero_le hk
    rw [if_pos hk, Int.toNat_natCast, tenPow_eq, ← Nat.floor_div_eq_div (K := ℚ), zpow_natCast,
      div_div]
    push_cast
    rfl
  · obtain ⟨j, hj⟩ : ∃ j : Nat, -k = j := ⟨(-k).toNat, by omega⟩
    rw [if_neg hk, hj, Int.toNat_natCast, tenPow_eq, ← Nat.floor_div_eq_div (K := ℚ),
      show k = -(j : Int) by omega, zpow_neg, zpow_natCast, div_inv_eq_mul, Nat.cast_mul,
      mul_div_right_comm]
    push_cast
    rfl

theorem gridFloor_mem (num den : Nat) (k : Int) :
    (gridFloor num den k : ℚ) * 10 ^ k ≤ num / den ∧
    (num : ℚ) / den < ((gridFloor num den k + 1 : Nat) : ℚ) * 10 ^ k := by
  have hten : (0 : ℚ) < 10 ^ k := zpow_pos (by norm_num) k
  have hratio : (0 : ℚ) ≤ num / den / 10 ^ k :=
    div_nonneg (div_nonneg (Nat.cast_nonneg _) (Nat.cast_nonneg _)) hten.le
  rw [gridFloor_eq, ← le_div_iff₀ hten, ← div_lt_iff₀ hten, Nat.cast_succ]
  exact ⟨Nat.floor_le hratio, Nat.lt_floor_add_one _⟩

theorem ten_zpow_highestDecimal_le {num den : Nat} (hnum : num ≠ 0) (hden : den ≠ 0) :
    (10 : ℚ) ^ highestDecimal num den ≤ num / den := by
  have hpos : (0 : ℚ) < den := Nat.cast_pos.2 (Nat.pos_of_ne_zero hden)
  unfold highestDecimal
  by_cases hge : den ≤ num
  · have hne : num / den ≠ 0 := (Nat.div_pos hge (Nat.pos_of_ne_zero hden)).ne'
    have hlow := Decimal.le_of_length hne 0
    rw [zpow_zero, mul_one, zero_add] at hlow
    rw [if_pos hge]
    exact hlow.trans Nat.cast_div_le
  · have hhigh := lt_pow_decimalLength ((den - 1) / num)
    rw [if_neg hge, zpow_neg, zpow_natCast, le_div_iff₀ hpos, inv_mul_le_iff₀ (by positivity)]
    rw [Nat.div_lt_iff_lt_mul (Nat.pos_of_ne_zero hnum)] at hhigh
    have hle : den ≤ 10 ^ decimalLength ((den - 1) / num) * num := by omega
    exact_mod_cast hle

theorem isSome_neighbour? {bits num den n : Nat} {k : Int}
    (hk : k = highestDecimal num den - n + 1)
    (h : Scientific.bits ⟨gridFloor num den k, k⟩ = bits ∨
      Scientific.bits ⟨gridFloor num den k + 1, k⟩ = bits) :
    (neighbour? bits num den n).isSome = true := by
  subst hk
  unfold neighbour?
  dsimp only
  split
  · rfl
  · rfl
  · rfl
  · rename_i hbelow habove
    rcases h with h | h
    · exact absurd h (beq_eq_false_iff_ne.1 hbelow)
    · exact absurd h (beq_eq_false_iff_ne.1 habove)

theorem isSome_firstNeighbour {bits num den fuel n n' : Nat} (hle : n ≤ n') (hlt : n' < n + fuel)
    (h : (neighbour? bits num den n').isSome = true) :
    (firstNeighbour bits num den fuel n).isSome = true := by
  induction fuel generalizing n with
  | zero => omega
  | succ fuel ih =>
      unfold firstNeighbour
      cases hn : neighbour? bits num den n with
      | some s => rfl
      | none =>
          refine ih (hle.lt_of_ne ?_) (by omega)
          rintro rfl
          rw [hn] at h
          cases h

/-- Of the two neighbours with seventeen digits one reads back as the double. -/
theorem isSome_neighbour?_seventeen {bits m place num den : Nat} (hs : Spells bits m place)
    (hm : m ≠ 0) (hbits : bits ≤ infiniteBits) (hden : den ≠ 0)
    (h : (num : ℚ) / den = m * 2 ^ (place + leastExponent)) :
    (neighbour? bits num den 17).isSome = true := by
  have hnum : num ≠ 0 := by
    rintro rfl
    rw [Nat.cast_zero, zero_div] at h
    exact mul_ne_zero (Nat.cast_ne_zero.2 hm) (two_zpow_pos _).ne' h.symm
  obtain ⟨k, hk⟩ : ∃ k, k = highestDecimal num den - (17 : Nat) + 1 := ⟨_, rfl⟩
  -- the step of the grid is small beside the double
  have hstep : (10 : ℚ) ^ k ≤ m * 2 ^ (place + leastExponent) / 10 ^ 16 := by
    rw [← h, le_div_iff₀ (by norm_num), ← zpow_natCast, ← zpow_add₀ (by norm_num), hk,
      show highestDecimal num den - (17 : Nat) + 1 + (16 : Nat) = highestDecimal num den by
        push_cast
        ring]
    exact ten_zpow_highestDecimal_le hnum hden
  obtain ⟨hbelow, habove⟩ := gridFloor_mem num den k
  have hread (s : Scientific)
      (hclose : |s.digits * (10 : ℚ) ^ s.exponent - num / den| ≤ 10 ^ k / 2) : s.bits = bits := by
    refine hs.nearestBits_eq hm hbits s.den_ne_zero ?_
    rw [Scientific.num_div_den, ← h]
    refine hclose.trans ?_
    rw [h, ← div_div, div_right_comm]
    exact div_le_div_of_nonneg_right hstep (by norm_num)
  refine isSome_neighbour? hk ?_
  push_cast at habove
  by_cases hhalf : (num : ℚ) / den - gridFloor num den k * 10 ^ k ≤ 10 ^ k / 2
  · refine .inl (hread _ ?_)
    dsimp only
    rw [abs_sub_comm, abs_of_nonneg (by linarith)]
    exact hhalf
  · refine .inr (hread _ ?_)
    dsimp only
    push_cast
    rw [abs_of_nonneg (by linarith)]
    linarith

/-- The search for the shortest decimal of a double finds one. -/
theorem exists_firstNeighbour_eq {x : Float} {negative : Bool} {m : Nat} {q : Int}
    (h : ofFloat x = .finite negative m q) (hm : m ≠ 0) :
    ∃ bits num den : Nat, bits < infiniteBits ∧ x = signed negative bits ∧ den ≠ 0 ∧
      (num : ℚ) / den = m * 2 ^ q ∧ nearestBits num den = bits ∧
      firstNeighbour bits num den 17 1 = some (shortest m q) := by
  obtain ⟨bits, place, hs, rfl, hbits, hx⟩ := exists_eq_signed h
  have hleast : leastExponent ≤ place + leastExponent := by omega
  obtain ⟨num, den, hden, -, hratio, heq⟩ := exists_shortest_eq m hleast
  have hself : nearestBits num den = bits := by
    refine hs.nearestBits_eq hm hbits.le hden ?_
    rw [hratio, sub_self, abs_zero]
    positivity
  have hsome : (firstNeighbour bits num den 17 1).isSome = true :=
    isSome_firstNeighbour (by decide) (by decide)
      (isSome_neighbour?_seventeen hs hm hbits.le hden hratio)
  obtain ⟨s, hfound⟩ := Option.isSome_iff_exists.1 hsome
  refine ⟨bits, num, den, hbits, hx, hden, hratio, hself, ?_⟩
  rw [heq, hself, hfound, Option.getD_some]

/-- The shortest decimal of a double reads back as the double. -/
theorem signed_shortest {x : Float} {negative : Bool} {m : Nat} {q : Int}
    (h : ofFloat x = .finite negative m q) (hm : m ≠ 0) :
    signed negative (shortest m q).bits = x := by
  obtain ⟨bits, num, den, -, hx, -, -, -, hfound⟩ := exists_firstNeighbour_eq h hm
  rw [(firstNeighbour_eq_some hfound).1, hx]

namespace Numeral

/-- A numeral with the number of the shortest decimal is read as the double. -/
theorem toFloat_eq_of_magnitude {x : Float} {negative : Bool} {m : Nat} {q : Int} {n : Numeral}
    (h : Binary.ofFloat x = .finite negative m q) (hm : m ≠ 0) (hsign : n.negative = negative)
    (hn : n.magnitude = (shortest m q).digits * (10 : ℚ) ^ (shortest m q).exponent) :
    n.toFloat = x := by
  rw [toFloat_eq_nearest, nearest, hsign]
  rw [nearestBits_congr (Scientific.den_ne_zero _) (shortest m q).den_ne_zero
    (by rw [Scientific.num_div_den, Scientific.num_div_den]; exact hn)]
  exact signed_shortest h hm

end Numeral

end Appraisal
