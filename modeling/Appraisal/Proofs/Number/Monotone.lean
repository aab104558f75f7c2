import Appraisal.Number.Round
import Appraisal.Proofs.Number.Nearest

/-!
# Rounding keeps the order

What a ratio is rounded to depends on its value only, and a greater ratio is not rounded to less:
this holds of the nearest integer, of the nearest double and of the integer part of a double. Whole and
half numbers of a moderate size are doubles, so they bound what lies between them. A ratio that is near
to a double in proportion is rounded to it.
-/

namespace Appraisal.Binary

/-! ### Nearest integers -/

theorem roundHalfEven_mul_mul (num den : Nat) {k : Nat} (hk : 0 < k) :
    roundHalfEven (num * k) (den * k) = roundHalfEven num den := by
  have hlt (a b : Nat) : 2 * (a * k) < b * k ↔ 2 * a < b := by
    rw [← Nat.mul_assoc, Nat.mul_lt_mul_right hk]
  have hgt (a b : Nat) : b * k < 2 * (a * k) ↔ b < 2 * a := by
    rw [← Nat.mul_assoc, Nat.mul_lt_mul_right hk]
  unfold roundHalfEven
  rw [Nat.mul_div_mul_right num den hk, Nat.mul_mod_mul_right]
  simp only [hlt, hgt]

section

variable {num den num' den' : Nat} (hden : den ≠ 0) (hden' : den' ≠ 0)
include hden hden'

theorem roundHalfEven_congr (h : (num : ℚ) / den = num' / den') :
    roundHalfEven num den = roundHalfEven num' den' := by
  have hcross : num * den' = num' * den := by
    rw [div_eq_div_iff (Nat.cast_ne_zero.2 hden) (Nat.cast_ne_zero.2 hden')] at h
    exact_mod_cast h
  rw [← roundHalfEven_mul_mul num den (Nat.pos_of_ne_zero hden'), hcross, Nat.mul_comm den den',
    roundHalfEven_mul_mul num' den' (Nat.pos_of_ne_zero hden)]

theorem roundHalfEven_mono (h : (num : ℚ) / den ≤ num' / den') :
    roundHalfEven num den ≤ roundHalfEven num' den' := by
  by_contra hlt
  have hstep : roundHalfEven num' den' + 1 ≤ roundHalfEven num den := Nat.not_le.1 hlt
  have hstep' : (roundHalfEven num' den' : ℚ) + 1 ≤ roundHalfEven num den := by
    exact_mod_cast hstep
  obtain ⟨-, hupper⟩ := abs_le.1 (abs_roundHalfEven_sub_le num hden)
  obtain ⟨hlower, -⟩ := abs_le.1 (abs_roundHalfEven_sub_le num' hden')
  -- the two errors leave no room between the ratios
  have heq : (num : ℚ) / den = num' / den' := by linarith
  exact hlt (roundHalfEven_congr hden hden' heq).le

end

/-! ### Nearest doubles -/

theorem exists_inUnits_eq (num : Nat) {den : Nat} (hden : den ≠ 0) (q : Int) :
    ∃ a b : Nat, b ≠ 0 ∧ (a : ℚ) / b = num / den / 2 ^ q ∧
      inUnits num den q = roundHalfEven a b := by
  unfold inUnits
  by_cases hq : 0 ≤ q
  · refine ⟨num, den * twoPow q.toNat, Nat.mul_ne_zero hden (twoPow_pos _).ne', ?_, if_pos hq⟩
    rw [Nat.cast_mul, cast_twoPow_toNat hq, div_div]
  · refine ⟨num * twoPow (-q).toNat, den, hden, ?_, if_neg hq⟩
    rw [Nat.cast_mul, cast_twoPow_toNat (by omega), zpow_neg, div_div, mul_comm (den : ℚ),
      ← div_div, div_eq_mul_inv (num : ℚ)]

section

variable {num den num' den' : Nat} (hden : den ≠ 0) (hden' : den' ≠ 0)
include hden hden'

theorem inUnits_mono (h : (num : ℚ) / den ≤ num' / den') (q : Int) :
    inUnits num den q ≤ inUnits num' den' q := by
  obtain ⟨a, b, hb, hab, hunits⟩ := exists_inUnits_eq num hden q
  obtain ⟨a', b', hb', hab', hunits'⟩ := exists_inUnits_eq num' hden' q
  rw [hunits, hunits']
  apply roundHalfEven_mono hb hb'
  rw [hab, hab']
  exact div_le_div_of_nonneg_right h (two_zpow_pos q).le

theorem highestPlace_mono (hnum : num ≠ 0) (hnum' : num' ≠ 0)
    (h : (num : ℚ) / den ≤ num' / den') : highestPlace num den ≤ highestPlace num' den' := by
  have hlow := (highestPlace_mem hnum hden).1
  have hhigh := (highestPlace_mem hnum' hden').2
  have hpower := (hlow.trans h).trans_lt hhigh
  rw [zpow_lt_zpow_iff_right₀ (by norm_num)] at hpower
  omega

theorem nearestBits_mono (h : (num : ℚ) / den ≤ num' / den') :
    nearestBits num den ≤ nearestBits num' den' := by
  by_cases hnum : num = 0
  · rw [nearestBits, if_pos hnum]
    exact Nat.zero_le _
  · have hnum' : num' ≠ 0 := by
      rintro rfl
      have hpos : (0 : ℚ) < num / den :=
        div_pos (Nat.cast_pos.2 (Nat.pos_of_ne_zero hnum))
          (Nat.cast_pos.2 (Nat.pos_of_ne_zero hden))
      rw [Nat.cast_zero, zero_div] at h
      exact absurd h (not_le.2 hpos)
    rw [nearestBits, nearestBits, if_neg hnum, if_neg hnum']
    refine min_le_min_right _ ?_
    have hhighest := highestPlace_mono hden hden' hnum hnum' h
    have hplace : lastPlace num den ≤ lastPlace num' den' := by
      unfold lastPlace
      omega
    have hleast : leastExponent ≤ lastPlace num den := le_max_right _ _
    rcases hplace.eq_or_lt with heq | hlt
    · have hunits := inUnits_mono hden hden' h (lastPlace num' den')
      rw [heq]
      exact Nat.add_le_add_right hunits _
    · -- a significand at a higher place is full, so one carry at the lower place does not pass it
      have hupper := inUnits_lastPlace_le hnum hden
      have hlower : 2 ^ 52 ≤ inUnits num' den' (lastPlace num' den') := by
        by_contra hsmall
        have := lastPlace_eq_of_inUnits_lt hnum' hden' (Nat.not_le.1 hsmall)
        omega
      rw [twoPow_eq]
      omega

end

/-! ### Magnitudes -/

/-- The bits of a finite double are a significand and the number of places that its last place is
above the least one. Only at the least place is the significand short. -/
structure Spells (bits m place : Nat) : Prop where
  bits_eq : bits = m + place * 2 ^ 52
  lt : m < 2 ^ 53
  full : m < 2 ^ 52 → place = 0

theorem exists_spells {bits : Nat} (h : bits < infiniteBits) :
    ∃ m place, Spells bits m place ∧
      ∀ negative, ofFloat (signed negative bits) = .finite negative m (place + leastExponent) := by
  have hleast : leastExponent = -1074 := rfl
  by_cases hzero : bits / 2 ^ 52 = 0
  · refine ⟨bits, 0, ⟨by omega, by omega, fun _ => rfl⟩, fun negative => ?_⟩
    rw [ofFloat_signed h, if_pos hzero, Nat.cast_zero, Int.zero_add]
  · refine ⟨2 ^ 52 + bits % 2 ^ 52, bits / 2 ^ 52 - 1, ⟨?_, ?_, fun hsmall => ?_⟩,
      fun negative => ?_⟩
    · omega
    · omega
    · omega
    · rw [ofFloat_signed h, if_neg hzero]
      congr 1
      omega

theorem Spells.bits_eq_zero_iff {bits m place : Nat} (hs : Spells bits m place) :
    bits = 0 ↔ m = 0 := by
  have hbits := hs.bits_eq
  have hfull := hs.full
  omega

theorem two_mul_mul_two_zpow_le {place place' : Nat} (m : Nat) (h : place < place') :
    2 * (m : ℚ) * 2 ^ (place + leastExponent) ≤ m * 2 ^ (place' + leastExponent) :=
  calc 2 * (m : ℚ) * 2 ^ (place + leastExponent)
      = m * 2 ^ (place + leastExponent + 1) := by
        rw [zpow_add_one₀ (by norm_num)]
        ring
    _ ≤ m * 2 ^ (place' + leastExponent) :=
        mul_le_mul_of_nonneg_left (zpow_le_zpow_right₀ (by norm_num) (by omega)) (Nat.cast_nonneg _)

section

variable {bits bits' m m' place place' : Nat} (hs : Spells bits m place)
  (hs' : Spells bits' m' place')
include hs hs'

theorem Spells.le_or_lt (h : bits ≤ bits') :
    place = place' ∧ m ≤ m' ∨ place < place' ∧ m < 2 * m' := by
  have hbits := hs.bits_eq
  have hbits' := hs'.bits_eq
  have hlt := hs.lt
  have hlt' := hs'.lt
  have hfull := hs.full
  have hfull' := hs'.full
  omega

theorem Spells.mul_two_zpow_le (h : bits ≤ bits') :
    (m : ℚ) * 2 ^ (place + leastExponent) ≤ m' * 2 ^ (place' + leastExponent) := by
  rcases hs.le_or_lt hs' h with ⟨rfl, hm⟩ | ⟨hplace, hm⟩
  · exact mul_le_mul_of_nonneg_right (Nat.cast_le.2 hm) (two_zpow_pos _).le
  · have hless : (m : ℚ) ≤ 2 * m' := by exact_mod_cast hm.le
    exact (mul_le_mul_of_nonneg_right hless (two_zpow_pos _).le).trans
      (two_mul_mul_two_zpow_le m' hplace)

end

theorem magnitude_signed_mono {negative negative' : Bool} {bits bits' : Nat} (h : bits ≤ bits')
    (hfinite : bits' < infiniteBits) :
    (ofFloat (signed negative bits)).magnitude ≤ (ofFloat (signed negative' bits')).magnitude := by
  obtain ⟨m, place, hs, hm⟩ := exists_spells (h.trans_lt hfinite)
  obtain ⟨m', place', hs', hm'⟩ := exists_spells hfinite
  rw [hm, hm']
  exact hs.mul_two_zpow_le hs' h

/-- Of two ratios the greater one is rounded to the double of the greater magnitude. -/
theorem magnitude_nearest_mono {negative negative' : Bool} {num den num' den' : Nat}
    (hden : den ≠ 0) (hden' : den' ≠ 0) (h : (num : ℚ) / den ≤ num' / den')
    (hfinite : nearestBits num' den' < infiniteBits) :
    (ofFloat (nearest negative num den)).magnitude ≤
      (ofFloat (nearest negative' num' den')).magnitude :=
  magnitude_signed_mono (nearestBits_mono hden hden' h) hfinite

/-! ### Ratios near a double -/

section

variable {num den num' den' : Nat}

theorem nearestBits_congr (hden : den ≠ 0) (hden' : den' ≠ 0)
    (h : (num : ℚ) / den = num' / den') : nearestBits num den = nearestBits num' den' :=
  (nearestBits_mono hden hden' h.le).antisymm (nearestBits_mono hden' hden h.ge)

theorem lastPlace_eq (hnum : num ≠ 0) (hden : den ≠ 0) {q : Int} (hleast : leastExponent ≤ q)
    (hlow : q = leastExponent ∨ (2 : ℚ) ^ (q + 52) ≤ num / den)
    (hhigh : (num : ℚ) / den < 2 ^ (q + 53)) : lastPlace num den = q := by
  refine (lastPlace_le hnum hden hleast hhigh).antisymm ?_
  rcases hlow with rfl | hlow
  · exact le_max_right _ _
  · have hlt := hlow.trans_lt (highestPlace_mem hnum hden).2
    rw [zpow_lt_zpow_iff_right₀ (by norm_num)] at hlt
    unfold lastPlace
    omega

section

variable {v : ℚ} {r place : Nat} (hnum : num ≠ 0) (hden : den ≠ 0)
include hnum hden

/-- A ratio is rounded to the significand that is less than half a unit of its last place away. -/
theorem nearestBits_eq_of_abs_lt (hv : (num : ℚ) / den = v * 2 ^ (place + leastExponent))
    (hlow : place = 0 ∨ 2 ^ 52 ≤ v) (hhigh : v < 2 ^ 53) (h : |v - r| < 1 / 2)
    (hbits : r + place * 2 ^ 52 ≤ infiniteBits) : nearestBits num den = r + place * 2 ^ 52 := by
  have hunit := two_zpow_pos (place + leastExponent)
  have hplace : lastPlace num den = place + leastExponent := by
    refine lastPlace_eq hnum hden (by omega) (hlow.imp (fun h => by simp [h]) (fun h => ?_)) ?_
    · rw [hv, zpow_add₀ (by norm_num), mul_comm]
      exact mul_le_mul_of_nonneg_right h hunit.le
    · rw [hv, zpow_add₀ (by norm_num) _ 53, mul_comm]
      exact mul_lt_mul_of_pos_left hhigh hunit
  have hround := abs_inUnits_sub_le num hden (place + leastExponent)
  rw [hv, mul_div_cancel_right₀ _ hunit.ne'] at hround
  have hunits : inUnits num den (place + leastExponent) = r := by
    refine eq_of_abs_sub_lt_one ((abs_sub_le _ v _).trans_lt ?_)
    linarith
  rw [nearestBits, if_neg hnum]
  dsimp only
  rw [hplace, hunits, Int.add_sub_cancel, Int.toNat_natCast, twoPow_eq]
  exact min_eq_left hbits

/-- Just below a power of two the places are finer: a ratio is rounded up to the power when it is less
than a quarter of the unit above it away. -/
theorem nearestBits_eq_of_lt_power
    (hv : (num : ℚ) / den = v * 2 ^ ((place + 1 : Nat) + leastExponent))
    (hlow : 2 ^ 52 - 1 / 4 < v) (hhigh : v < 2 ^ 52)
    (hbits : 2 ^ 52 + (place + 1) * 2 ^ 52 ≤ infiniteBits) :
    nearestBits num den = 2 ^ 52 + (place + 1) * 2 ^ 52 := by
  have hfiner : (num : ℚ) / den = 2 * v * 2 ^ (place + leastExponent) := by
    rw [hv, Nat.cast_succ, add_right_comm, zpow_add_one₀ (by norm_num)]
    ring
  have hcarry : 2 ^ 52 + (place + 1) * 2 ^ 52 = 2 ^ 53 + place * 2 ^ 52 := by omega
  rw [hcarry] at hbits ⊢
  refine nearestBits_eq_of_abs_lt hnum hden hfiner (.inr ?_) ?_ ?_ hbits
  · linarith
  · linarith
  · push_cast
    rw [abs_lt]
    constructor <;> linarith

end

/-- A ratio that is near to a double in proportion is rounded to it. The proportion is less than half
of the gap to the next double, also below a power of two, where the gap is half as wide. -/
theorem Spells.nearestBits_eq {bits m place : Nat} (hs : Spells bits m place) (hm : m ≠ 0)
    (hbits : bits ≤ infiniteBits) (hden : den ≠ 0)
    (h : |(num : ℚ) / den - m * 2 ^ (place + leastExponent)| ≤
      m * 2 ^ (place + leastExponent) / (2 * 10 ^ 16)) : nearestBits num den = bits := by
  obtain ⟨rfl, hlt, hfull⟩ := hs
  have hunit := two_zpow_pos (place + leastExponent)
  obtain ⟨v, hv⟩ : ∃ v, (num : ℚ) / den = v * 2 ^ (place + leastExponent) :=
    ⟨_, (div_mul_cancel₀ _ hunit.ne').symm⟩
  have hclose : |v - m| ≤ m / (2 * 10 ^ 16) := by
    rw [hv, ← sub_mul, abs_mul, abs_of_pos hunit, mul_div_right_comm] at h
    exact le_of_mul_le_mul_right h hunit
  obtain ⟨hbelow, habove⟩ := abs_le.1 hclose
  have hone : (1 : ℚ) ≤ m := Nat.one_le_cast.2 (Nat.pos_of_ne_zero hm)
  have hle : (m : ℚ) + 1 ≤ 2 ^ 53 := by exact_mod_cast hlt
  have hnum : num ≠ 0 := by
    rintro rfl
    rw [Nat.cast_zero, zero_div] at hv
    have hzero : v = 0 := (mul_eq_zero.1 hv.symm).resolve_right hunit.ne'
    linarith
  by_cases hcarry : v < 2 ^ 52 ∧ place ≠ 0
  · obtain ⟨hless, hplace⟩ := hcarry
    have hpower : m = 2 ^ 52 := by
      have hge : 2 ^ 52 ≤ m := Nat.not_lt.1 (fun hlt => hplace (hfull hlt))
      have hle : (m : ℚ) < 2 ^ 52 + 1 := by linarith
      exact (Nat.lt_succ_iff.1 (by exact_mod_cast hle)).antisymm hge
    subst hpower
    obtain ⟨place, rfl⟩ := Nat.exists_eq_succ_of_ne_zero hplace
    refine nearestBits_eq_of_lt_power hnum hden hv ?_ hless hbits
    push_cast at hbelow
    linarith
  · refine nearestBits_eq_of_abs_lt hnum hden hv ?_ (by linarith) ?_ hbits
    · by_contra hnone
      rw [not_or, not_le] at hnone
      exact hcarry ⟨hnone.2, hnone.1⟩
    · refine hclose.trans_lt ?_
      linarith

end

/-! ### Whole parts -/

theorem split_fst (m : Nat) (q : Int) : (split m q).1 = ⌊(m : ℚ) * 2 ^ q⌋₊ := by
  unfold split
  by_cases hq : 0 ≤ q
  · rw [if_pos hq, ← cast_twoPow_toNat hq, ← Nat.cast_mul, Nat.floor_natCast]
  · rw [if_neg hq, ← Nat.floor_div_eq_div (K := ℚ)]
    rw [cast_twoPow_toNat (by omega), zpow_neg, div_inv_eq_mul]

theorem ofFloat_signed_infiniteBits (negative : Bool) :
    ofFloat (signed negative infiniteBits) = .infinite negative := by
  cases negative <;> decide +kernel

theorem truncateInt_nearest_eq {negative : Bool} {num den : Nat}
    (h : nearestBits num den < infiniteBits) :
    truncateInt (nearest negative num den) =
      .ok (withSign negative ⌊(ofFloat (nearest negative num den)).magnitude⌋₊) := by
  obtain ⟨m, place, -, hm⟩ := exists_spells h
  unfold truncateInt integral
  rw [nearest, hm]
  dsimp only
  rw [truncateOf, split_fst]
  rfl

/-- The integer part of a ratio's double, which has one only when it is finite. -/
theorem truncateInt_nearest_eq_ok {negative : Bool} {num den : Nat} {i : Int}
    (h : truncateInt (nearest negative num den) = .ok i) :
    nearestBits num den < infiniteBits ∧
      i = withSign negative ⌊(ofFloat (nearest negative num den)).magnitude⌋₊ := by
  rcases (nearestBits_le num den).lt_or_eq with hlt | heq
  · rw [truncateInt_nearest_eq hlt] at h
    exact ⟨hlt, (Except.ok.inj h).symm⟩
  · unfold truncateInt integral at h
    rw [nearest, heq, ofFloat_signed_infiniteBits] at h
    cases h

theorem nearestBits_lt_infiniteBits {num den : Nat} (hden : den ≠ 0)
    (h : (num : ℚ) / den < 2 ^ (1022 : Int)) : nearestBits num den < infiniteBits := by
  by_cases hnum : num = 0
  · rw [nearestBits, if_pos hnum]
    decide
  · rw [nearestBits_eq hnum hden h]
    exact nearestBits_lt hnum hden h

theorem magnitude_nearest_of_exact (negative : Bool) {num den k : Nat} {q : Int} (hden : den ≠ 0)
    (hq : leastExponent ≤ q) (hq' : q ≤ 0) (hk : k < 2 ^ 53) (h : (num : ℚ) / den = k * 2 ^ q) :
    nearestBits num den < infiniteBits ∧
      (ofFloat (nearest negative num den)).magnitude = k * 2 ^ q := by
  have hlt : (num : ℚ) / den < 2 ^ (q + 53) := by
    rw [h, zpow_add₀ (by norm_num), mul_comm]
    apply mul_lt_mul_of_pos_left _ (two_zpow_pos q)
    exact_mod_cast hk
  have hlt' : (num : ℚ) / den < 2 ^ (1022 : Int) :=
    hlt.trans_le (zpow_le_zpow_right₀ (by norm_num) (by omega))
  refine ⟨nearestBits_lt_infiniteBits hden hlt', ?_⟩
  by_cases hnum : num = 0
  · rw [nearest, nearestBits, if_pos hnum, magnitude_signed_zero, ← h, hnum, Nat.cast_zero, zero_div]
  · rw [(isNearest_nearest negative hnum hden hlt').exact q hq hlt ⟨k, h⟩, h]

/-- A scaled double is the nearest to a ratio. -/
theorem exists_scale_eq {x : Float} {negative : Bool} {m : Nat} {q : Int}
    (h : ofFloat x = .finite negative m q) (factor : Nat) {divisor : Nat} (hd : divisor ≠ 0) :
    ∃ num den : Nat, den ≠ 0 ∧ (num : ℚ) / den = m * 2 ^ q * factor / divisor ∧
      scale x factor divisor = nearest negative num den := by
  unfold scale
  rw [h]
  by_cases hq : 0 ≤ q
  · refine ⟨m * twoPow q.toNat * factor, divisor, hd, ?_, if_pos hq⟩
    push_cast
    rw [cast_twoPow_toNat hq]
  · refine ⟨m * factor, twoPow (-q).toNat * divisor, Nat.mul_ne_zero (twoPow_pos _).ne' hd, ?_,
      if_neg hq⟩
    push_cast
    rw [cast_twoPow_toNat (by omega), zpow_neg]
    field_simp

theorem natAbs_withSign (negative : Bool) (n : Nat) : (withSign negative n).natAbs = n := by
  cases negative
  · exact Int.natAbs_natCast n
  · exact (Int.natAbs_neg n).trans (Int.natAbs_natCast n)

end Appraisal.Binary

namespace Appraisal

open Binary

/-- A ratio that is rounded, divided and rounded again before it is cut off. -/
theorem truncateInt_scale_eq_ok {a i : Int} {den divisor : Nat} (hd : divisor ≠ 0)
    (h : truncateInt (scale (floatOfRatio a den) 1 divisor) = .ok i) :
    nearestBits a.natAbs den < infiniteBits ∧ ∃ num' den' : Nat, den' ≠ 0 ∧
      (num' : ℚ) / den' = (ofFloat (floatOfRatio a den)).magnitude / divisor ∧
      nearestBits num' den' < infiniteBits ∧
      i = withSign (a < 0) ⌊(ofFloat (nearest (a < 0) num' den')).magnitude⌋₊ := by
  unfold floatOfRatio at h ⊢
  rcases (nearestBits_le a.natAbs den).lt_or_eq with hlt | heq
  · obtain ⟨m, place, -, hm⟩ := exists_spells hlt
    have hx : ofFloat (nearest (a < 0) a.natAbs den) = .finite (a < 0) m (place + leastExponent) :=
      hm _
    obtain ⟨num', den', hden', hratio, hscale⟩ := exists_scale_eq hx 1 hd
    rw [hscale] at h
    obtain ⟨hbits, hi⟩ := truncateInt_nearest_eq_ok h
    refine ⟨hlt, num', den', hden', ?_, hbits, hi⟩
    rw [hratio, hx, Nat.cast_one, mul_one]
    rfl
  · have hinfinite : ofFloat (nearest (a < 0) a.natAbs den) = .infinite (a < 0) := by
      rw [nearest, heq, ofFloat_signed_infiniteBits]
    unfold scale truncateInt integral at h
    rw [hinfinite] at h
    dsimp only at h
    rw [hinfinite] at h
    cases h

theorem natAbs_div_le {a b : Int} (hab : a.natAbs ≤ b.natAbs) (den : Nat) :
    ((a.natAbs : Nat) : ℚ) / den ≤ (b.natAbs : Nat) / den :=
  div_le_div_of_nonneg_right (Nat.cast_le.2 hab) (Nat.cast_nonneg _)

theorem magnitude_floatOfRatio_mono {a b : Int} {den : Nat} (hden : den ≠ 0)
    (hab : a.natAbs ≤ b.natAbs) (hfinite : nearestBits b.natAbs den < infiniteBits) :
    (ofFloat (floatOfRatio a den)).magnitude ≤ (ofFloat (floatOfRatio b den)).magnitude :=
  magnitude_nearest_mono hden hden (natAbs_div_le hab den) hfinite

/-- A smaller ratio is cut off to something, too. -/
theorem exists_truncateInt_scale {a b j : Int} {den divisor : Nat} (hd : divisor ≠ 0)
    (hden : den ≠ 0) (hj : truncateInt (scale (floatOfRatio b den) 1 divisor) = .ok j)
    (hab : a.natAbs ≤ b.natAbs) :
    ∃ i, truncateInt (scale (floatOfRatio a den) 1 divisor) = .ok i := by
  obtain ⟨hfinite, num', den₂, hden₂, hratio', hfinite', -⟩ := truncateInt_scale_eq_ok hd hj
  have hround := magnitude_floatOfRatio_mono hden hab hfinite
  have hbits := nearestBits_mono hden hden (natAbs_div_le hab den)
  obtain ⟨m, place, -, hm⟩ := exists_spells (hbits.trans_lt hfinite)
  have hx : ofFloat (floatOfRatio a den) = .finite (a < 0) m (place + leastExponent) := hm _
  obtain ⟨num, den₁, hden₁, hratio, hscale⟩ := exists_scale_eq hx 1 hd
  rw [hscale]
  refine ⟨_, truncateInt_nearest_eq ((nearestBits_mono hden₁ hden₂ ?_).trans_lt hfinite')⟩
  rw [hx] at hround
  rw [hratio, hratio', Nat.cast_one, mul_one]
  exact div_le_div_of_nonneg_right hround (Nat.cast_nonneg _)

/-- A ratio that is whole, and a half number of divisors, goes through both roundings as it is. -/
theorem truncateInt_scale_of_halves {a : Int} {den divisor n k : Nat} (hd : divisor ≠ 0)
    (hden : den ≠ 0) (ha : a.natAbs = n * den) (hn : 2 * n = k * divisor) (hnlt : n < 2 ^ 53)
    (hklt : k < 2 ^ 53) :
    truncateInt (scale (floatOfRatio a den) 1 divisor) = .ok (withSign (a < 0) ↑(k / 2)) := by
  have hwhole : ((a.natAbs : Nat) : ℚ) / den = n * 2 ^ (0 : Int) := by
    rw [ha, Nat.cast_mul, mul_div_cancel_right₀ _ (Nat.cast_ne_zero.2 hden), zpow_zero, mul_one]
  obtain ⟨hbits, hmagnitude⟩ :=
    magnitude_nearest_of_exact (decide (a < 0)) hden (by decide) le_rfl hnlt hwhole
  obtain ⟨m, place, -, hm⟩ := exists_spells hbits
  have hx : ofFloat (floatOfRatio a den) = .finite (a < 0) m (place + leastExponent) := hm _
  have hm' : (m : ℚ) * 2 ^ (place + leastExponent) = n := by
    rw [zpow_zero, mul_one] at hmagnitude
    rw [← hmagnitude, nearest, hm]
    rfl
  obtain ⟨num, den', hden', hratio, hscale⟩ := exists_scale_eq hx 1 hd
  have hhalves : (num : ℚ) / den' = k * 2 ^ (-1 : Int) := by
    have hcast : 2 * (n : ℚ) = k * divisor := by exact_mod_cast hn
    have hpos : (divisor : ℚ) ≠ 0 := Nat.cast_ne_zero.2 hd
    rw [hratio, hm', Nat.cast_one, mul_one, div_eq_iff hpos, zpow_neg_one]
    linarith
  obtain ⟨hbits', hmagnitude'⟩ :=
    magnitude_nearest_of_exact (decide (a < 0)) hden' (by decide) (by decide) hklt hhalves
  rw [hscale, truncateInt_nearest_eq hbits', hmagnitude', zpow_neg_one, ← div_eq_mul_inv]
  rw [show (2 : ℚ) = ((2 : Nat) : ℚ) from rfl, Nat.floor_div_eq_div]

section

variable {a b i j : Int} {den divisor : Nat} (hd : divisor ≠ 0)
  (hi : truncateInt (scale (floatOfRatio a den) 1 divisor) = .ok i)
include hd hi

theorem truncateInt_scale_sign : (0 ≤ a → 0 ≤ i) ∧ (a < 0 → i ≤ 0) := by
  obtain ⟨-, num, den, -, -, -, rfl⟩ := truncateInt_scale_eq_ok hd hi
  unfold withSign
  constructor
  · intro ha
    rw [if_neg (by simpa using ha)]
    exact Int.natCast_nonneg _
  · intro ha
    rw [if_pos (by simpa using ha)]
    exact Int.neg_nonpos_of_nonneg (Int.natCast_nonneg _)

variable (hj : truncateInt (scale (floatOfRatio b den) 1 divisor) = .ok j) (hden : den ≠ 0)
include hj hden

theorem natAbs_truncateInt_scale_mono (hab : a.natAbs ≤ b.natAbs) : i.natAbs ≤ j.natAbs := by
  obtain ⟨-, num, den₁, hden₁, hratio, -, rfl⟩ := truncateInt_scale_eq_ok hd hi
  obtain ⟨hfinite, num', den₂, hden₂, hratio', hfinite', rfl⟩ := truncateInt_scale_eq_ok hd hj
  rw [natAbs_withSign, natAbs_withSign]
  have hround := magnitude_floatOfRatio_mono hden hab hfinite
  apply Nat.floor_le_floor
  apply magnitude_nearest_mono hden₁ hden₂ _ hfinite'
  rw [hratio, hratio']
  exact div_le_div_of_nonneg_right hround (Nat.cast_nonneg _)

/-- The number that is cut off on the way to zero keeps the order also across zero. -/
theorem truncateInt_scale_mono (hab : a ≤ b) : i ≤ j := by
  obtain ⟨hi₀, hi₁⟩ := truncateInt_scale_sign hd hi
  obtain ⟨hj₀, hj₁⟩ := truncateInt_scale_sign hd hj
  rcases lt_or_ge a 0 with ha | ha
  · rcases lt_or_ge b 0 with hb | hb
    · have := natAbs_truncateInt_scale_mono hd hj hi hden (by omega)
      omega
    · exact (hi₁ ha).trans (hj₀ hb)
  · have := natAbs_truncateInt_scale_mono hd hi hj hden (by omega)
    omega

end

/-! ### Numbers that no double is near to -/

/-- Half way between the largest double and the power of two that follows. -/
def leastTooLarge : Nat := 2 ^ 1024 - 2 ^ 970

theorem cast_leastTooLarge : (leastTooLarge : ℚ) = (2 ^ 53 - 1 / 2) * 2 ^ (971 : Int) := by
  have hnat : leastTooLarge = (2 ^ 54 - 1) * 2 ^ 970 := by decide +kernel
  rw [hnat, Nat.cast_mul, Nat.cast_pow, Nat.cast_ofNat, show (971 : Int) = (970 : Nat) + 1 from rfl,
    zpow_add_one₀ (by norm_num), zpow_natCast]
  generalize (2 : ℚ) ^ 970 = unit
  norm_num
  ring

/-- A ratio has a double just below half a place past the largest one. -/
theorem nearestBits_lt_infiniteBits_iff {num den : Nat} (hden : den ≠ 0) :
    nearestBits num den < infiniteBits ↔ (num : ℚ) / den < leastTooLarge := by
  constructor
  · intro hbits
    by_contra hlarge
    have habove : nearestBits leastTooLarge 1 = infiniteBits := by decide +kernel
    have hle : (leastTooLarge : ℚ) / (1 : Nat) ≤ num / den := by
      rw [Nat.cast_one, div_one]
      exact not_lt.1 hlarge
    have hmono := nearestBits_mono one_ne_zero hden hle
    omega
  · intro h
    by_cases hnum : num = 0
    · rw [nearestBits, if_pos hnum]
      decide
    · rw [cast_leastTooLarge] at h
      have hplace : lastPlace num den ≤ 971 := by
        refine lastPlace_le hnum hden (by decide) (h.trans ?_)
        rw [show (971 : Int) + 53 = (53 : Nat) + 971 by norm_num, zpow_add₀ (by norm_num), zpow_natCast]
        exact mul_lt_mul_of_pos_right (by norm_num) (two_zpow_pos _)
      have hunits := inUnits_lastPlace_le hnum hden
      have hleast : leastExponent = -1074 := rfl
      have hi : infiniteBits = 2047 * 2 ^ 52 := rfl
      rw [nearestBits, if_neg hnum, twoPow_eq]
      refine (Nat.min_le_left _ _).trans_lt ?_
      rcases hplace.lt_or_eq with hlow | htop
      · omega
      · -- at the last place of the largest doubles the significand still does not carry
        have hround := (abs_le.1 (abs_inUnits_sub_le num hden (lastPlace num den))).2
        rw [← div_lt_iff₀ (two_zpow_pos _)] at h
        rw [htop] at hround hunits ⊢
        have hfull : (inUnits num den 971 : ℚ) < 2 ^ 53 := by linarith
        have hfull' : inUnits num den 971 < 2 ^ 53 := by exact_mod_cast hfull
        rw [show ((971 : Int) - leastExponent).toNat = 2045 from rfl, hi]
        omega

/-- A whole number becomes no double just from half a place past the largest one on. -/
theorem floatOfInt?_eq_none_iff {n : Int} :
    floatOfInt? n = none ↔ leastTooLarge ≤ n.natAbs := by
  have hbits : floatOfInt? n = none ↔ nearestBits n.natAbs 1 = infiniteBits := by
    unfold floatOfInt?
    by_cases h : nearestBits n.natAbs 1 = infiniteBits <;> simp [h]
  have hlt : nearestBits n.natAbs 1 < infiniteBits ↔
      (n.natAbs : ℚ) / (1 : Nat) < leastTooLarge := nearestBits_lt_infiniteBits_iff one_ne_zero
  rw [Nat.cast_one, div_one, Nat.cast_lt] at hlt
  have hle := nearestBits_le n.natAbs 1
  rw [hbits]
  omega

end Appraisal
