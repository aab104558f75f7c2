import Appraisal.Proofs.Number.Monotone

/-!
# Order, products and quotients of doubles

A finite double is unpacked into the significand and the exponent of the binary fraction that it
stands for. Doubles without a sign are in the order of their bits. The product of two fractions
loses its lowest bits one at a time, while the last of them and whether any other was set are kept;
what is rounded from these is what rounding the exact product gives. So the product of two finite
doubles is the double nearest to the product. For a quotient the significand of the first fraction is
made long enough to have all the bits of a double, and what is left of the division decides the
rounding. The main statement about quotients: `exists_div_eq_nearest`.
-/

namespace Appraisal.Binary

open Float.Model UnpackedFloat

/-! ### Unpacking -/

def signOf (negative : Bool) : Sign := if negative then .negative else .positive

theorem signOf_mul (a b : Bool) : signOf a * signOf b = signOf (a != b) := by
  cases a <;> cases b <;> rfl

theorem ofBitVec_signField (b : BitVec 64) :
    Sign.ofBitVec (@unpackSign Format.binary64 b) = signOf (b.toNat / 2 ^ 63 % 2 == 1) := by
  have hsign : (@unpackSign Format.binary64 b).toNat = b.toNat / 2 ^ 63 % 2 := by
    simp [unpackSign, Nat.shiftRight_eq_div_pow]
  unfold Sign.ofBitVec signOf
  rw [← hsign]
  generalize @unpackSign Format.binary64 b = v
  rcases BitVec.eq_zero_or_eq_one v with rfl | rfl
  · rfl
  · rfl

theorem toNat_implicit_append (v : BitVec 52) : (1#1 ++ v).toNat = 2 ^ 52 + v.toNat := by
  rw [BitVec.toNat_append, ← Nat.shiftLeft_add_eq_or_of_lt v.isLt]
  simp [Nat.shiftLeft_eq]

/-- The parts of a finite double, which has a form of its own when it is a zero. -/
def unpacked (negative : Bool) (m : Nat) (q : Int) : UnpackedFloat :=
  if h : m = 0 then .zero (signOf negative)
  else .finite (signOf negative) m q (Nat.pos_of_ne_zero h)

theorem unpacked_zero (negative : Bool) (q : Int) : unpacked negative 0 q = .zero (signOf negative) :=
  rfl

variable {negative : Bool} {m : Nat} {q : Int}

theorem unpacked_of_ne_zero (h : m ≠ 0) : unpacked negative m q =
    .finite (signOf negative) m q (Nat.pos_of_ne_zero h) :=
  dif_neg h

/-- The significand and the exponent of a finite double come from its two fields. -/
theorem fields_of_ofBits {w : Nat} (h : ofBits w = .finite negative m q) :
    (w / 2 ^ 63 % 2 == 1) = negative ∧ w / 2 ^ 52 % 2 ^ 11 ≠ 2047 ∧
      (w / 2 ^ 52 % 2 ^ 11 = 0 ∧ m = w % 2 ^ 52 ∧ q = leastExponent ∨
        w / 2 ^ 52 % 2 ^ 11 ≠ 0 ∧ m = 2 ^ 52 + w % 2 ^ 52 ∧
          q = (w / 2 ^ 52 % 2 ^ 11 : Nat) - 1075) := by
  simp only [← twoPow_eq]
  unfold ofBits at h
  dsimp only at h
  split at h
  · split at h <;> cases h
  · rename_i hfull
    split at h
    · rename_i hzero
      obtain ⟨hs, hm, hq⟩ := finite.inj h
      exact ⟨hs, hfull, .inl ⟨hzero, hm.symm, hq.symm⟩⟩
    · rename_i hzero
      obtain ⟨hs, hm, hq⟩ := finite.inj h
      exact ⟨hs, hfull, .inr ⟨hzero, hm.symm, hq.symm⟩⟩

theorem unpack_of_ofFloat {x : Float} (h : ofFloat x = .finite negative m q) :
    x.toModel.unpack = unpacked negative m q := by
  obtain ⟨hs, hfull, hparts⟩ := fields_of_ofBits h
  rw [show x.toBits.toNat = x.toModel.toBits.toBitVec.toNat from rfl] at hs hfull hparts
  unfold Float.Model.unpack
  generalize x.toModel.toBits.toBitVec = b at hs hfull hparts
  have hmantissa := toNat_mantissaField b
  have hexponent : (@unpackExponent Format.binary64 b).toNat = b.toNat / 2 ^ 52 % 2 ^ 11 :=
    toNat_exponentField b
  have hnotFull : @unpackExponent Format.binary64 b ≠ -1#11 :=
    fun he => hfull ((exponentField_eq_iff b).1 he)
  have hbias : ((Format.binary64.exponentBias : Nat) : Int) + (52 : Nat) = 1075 := rfl
  unfold UnpackedFloat.unpack
  simp only [ofBitVec_signField, hs]
  rw [if_neg hnotFull]
  rcases hparts with ⟨hzero, rfl, rfl⟩ | ⟨hzero, rfl, rfl⟩
  · have hfield : @unpackExponent Format.binary64 b = 0#11 :=
      BitVec.eq_of_toNat_eq (hexponent.trans hzero)
    rw [if_pos hfield]
    by_cases hm : @unpackMantissa Format.binary64 b = 0#52
    · rw [dif_pos hm, ← hmantissa, hm]
      rfl
    · have hm' : b.toNat % 2 ^ 52 ≠ 0 := fun h0 => hm (BitVec.eq_of_toNat_eq (hmantissa.trans h0))
      rw [dif_neg hm, unpacked_of_ne_zero hm']
      congr 1
      rw [hexponent, hzero]
      rfl
  · have hfield : @unpackExponent Format.binary64 b ≠ 0#11 :=
      fun he => hzero (by rw [← hexponent, he]; rfl)
    rw [if_neg hfield, unpacked_of_ne_zero (by omega)]
    congr 1
    · rw [toNat_implicit_append, hmantissa]
    · rw [hexponent, hbias]

theorem exists_spells_of_ofFloat {x : Float} (h : ofFloat x = .finite negative m q) :
    ∃ place : Nat, Spells (m + place * 2 ^ 52) m place ∧ q = place + leastExponent := by
  have hleast : leastExponent = -1074 := rfl
  obtain ⟨-, -, ⟨-, hm, hq⟩ | ⟨hzero, hm, hq⟩⟩ := fields_of_ofBits h
  · exact ⟨0, ⟨rfl, by omega, fun _ => rfl⟩, by omega⟩
  · exact ⟨x.toBits.toNat / 2 ^ 52 % 2 ^ 11 - 1, ⟨rfl, by omega, by omega⟩, by omega⟩

theorem mem_of_ofFloat {x : Float} (h : ofFloat x = .finite negative m q) :
    m < 2 ^ 53 ∧ leastExponent ≤ q ∧ q ≤ 971 := by
  have hleast : leastExponent = -1074 := rfl
  obtain ⟨-, hfull, ⟨-, hm, hq⟩ | ⟨hzero, hm, hq⟩⟩ := fields_of_ofBits h
  · omega
  · omega

/-- The number of a finite double is less than the least one that is too large. -/
theorem magnitude_lt_leastTooLarge {x : Float} (h : ofFloat x = .finite negative m q) :
    (m : ℚ) * 2 ^ q < leastTooLarge := by
  obtain ⟨hm, -, hq⟩ := mem_of_ofFloat h
  have hm' : (m : ℚ) < 2 ^ 53 - 1 / 2 := by
    have : (m : ℚ) + 1 ≤ 2 ^ 53 := by exact_mod_cast hm
    linarith
  rw [cast_leastTooLarge]
  calc (m : ℚ) * 2 ^ q ≤ m * 2 ^ (971 : Int) :=
        mul_le_mul_of_nonneg_left (zpow_le_zpow_right₀ (by norm_num) hq) (Nat.cast_nonneg m)
    _ < (2 ^ 53 - 1 / 2) * 2 ^ (971 : Int) := mul_lt_mul_of_pos_right hm' (two_zpow_pos 971)

/-! ### Order -/

theorem float_lt_iff {x y : Float} :
    x < y ↔ x.toModel.unpack.compare y.toModel.unpack = some .lt := by
  have hmodel : x < y ↔ decide (x.toModel < y.toModel) = true := Iff.rfl
  rw [hmodel, decide_eq_true_iff]
  exact beq_iff_eq

theorem float_le_iff {x y : Float} :
    x ≤ y ↔ (x.toModel.unpack.compare y.toModel.unpack).any (·.isLE) = true := by
  have hmodel : x ≤ y ↔ decide (x.toModel ≤ y.toModel) = true := Iff.rfl
  rw [hmodel, decide_eq_true_iff]
  rfl

section

variable {bits bits' : Nat} (h : bits ≤ infiniteBits) (h' : bits' ≤ infiniteBits)

include h in
theorem unpack_signed (negative : Bool) :
    bits = infiniteBits ∧ (signed negative bits).toModel.unpack = .infinity (signOf negative) ∨
      bits < infiniteBits ∧ ∃ m place, Spells bits m place ∧
        (signed negative bits).toModel.unpack = unpacked negative m (place + leastExponent) := by
  rcases h.lt_or_eq with hlt | rfl
  · obtain ⟨m, place, hs, hm⟩ := exists_spells hlt
    exact .inr ⟨hlt, m, place, hs, unpack_of_ofFloat (hm negative)⟩
  · refine .inl ⟨rfl, ?_⟩
    cases negative <;> rfl

theorem Spells.compare_eq {m m' place place' : Nat} (hs : Spells bits m place)
    (hs' : Spells bits' m' place') :
    (compare ((place : Int) + leastExponent) (place' + leastExponent)).then (compare m m') =
      compare bits bits' := by
  have hplace : compare ((place : Int) + leastExponent) (place' + leastExponent) =
      compare place place' := by
    rcases lt_trichotomy place place' with hlt | rfl | hgt
    · rw [Int.compare_eq_lt.2 (by omega), Nat.compare_eq_lt.2 hlt]
    · rw [Int.compare_eq_eq.2 rfl, Nat.compare_eq_eq.2 rfl]
    · rw [Int.compare_eq_gt.2 (by omega), Nat.compare_eq_gt.2 hgt]
  rw [hplace]
  have hbits := hs.bits_eq
  have hbits' := hs'.bits_eq
  rcases lt_trichotomy bits bits' with hlt | heq | hgt
  · rw [Nat.compare_eq_lt.2 hlt]
    rcases hs.le_or_lt hs' hlt.le with ⟨rfl, hm⟩ | ⟨hplace, -⟩
    · rw [Nat.compare_eq_eq.2 rfl, Nat.compare_eq_lt.2 (by omega)]
      rfl
    · rw [Nat.compare_eq_lt.2 hplace]
      rfl
  · have hlt := hs.lt
    have hlt' := hs'.lt
    have hfull := hs.full
    have hfull' := hs'.full
    rw [Nat.compare_eq_eq.2 heq, Nat.compare_eq_eq.2 (by omega), Nat.compare_eq_eq.2 (by omega)]
    rfl
  · rw [Nat.compare_eq_gt.2 hgt]
    rcases hs'.le_or_lt hs hgt.le with ⟨rfl, hm⟩ | ⟨hplace, -⟩
    · rw [Nat.compare_eq_eq.2 rfl, Nat.compare_eq_gt.2 (by omega)]
      rfl
    · rw [Nat.compare_eq_gt.2 hplace]
      rfl

theorem compare_unpacked {m m' place place' : Nat} (hs : Spells bits m place)
    (hs' : Spells bits' m' place') :
    (unpacked false m (place + leastExponent)).compare (unpacked false m' (place' + leastExponent)) =
      some (compare bits bits') := by
  by_cases hm : m = 0
  · rw [hs.bits_eq_zero_iff.2 hm, hm, unpacked_zero]
    by_cases hm' : m' = 0
    · rw [hs'.bits_eq_zero_iff.2 hm', hm', unpacked_zero]
      rfl
    · rw [unpacked_of_ne_zero hm',
        Nat.compare_eq_lt.2 (Nat.pos_of_ne_zero (mt hs'.bits_eq_zero_iff.1 hm'))]
      rfl
  · rw [unpacked_of_ne_zero hm]
    by_cases hm' : m' = 0
    · rw [hs'.bits_eq_zero_iff.2 hm', hm', unpacked_zero,
        Nat.compare_eq_gt.2 (Nat.pos_of_ne_zero (mt hs.bits_eq_zero_iff.1 hm))]
      rfl
    · rw [unpacked_of_ne_zero hm', ← hs.compare_eq hs']
      rfl

include h h' in
/-- Doubles without a sign are in the order of their bits. -/
theorem compare_signed : (signed false bits).toModel.unpack.compare
    (signed false bits').toModel.unpack = some (compare bits bits') := by
  rcases unpack_signed h false with ⟨rfl, hx⟩ | ⟨hlt, m, place, hs, hx⟩
  · rcases unpack_signed h' false with ⟨rfl, hy⟩ | ⟨hlt', m', place', -, hy⟩
    · rw [hx, Nat.compare_eq_eq.2 rfl]
      rfl
    · rw [hx, hy, Nat.compare_eq_gt.2 hlt', unpacked]
      split <;> rfl
  · rcases unpack_signed h' false with ⟨rfl, hy⟩ | ⟨-, m', place', hs', hy⟩
    · rw [hx, hy, Nat.compare_eq_lt.2 hlt, unpacked]
      split <;> rfl
    · rw [hx, hy]
      exact compare_unpacked hs hs'

include h h' in
theorem signed_lt_signed_iff : signed false bits < signed false bits' ↔ bits < bits' := by
  rw [float_lt_iff, compare_signed h h', Option.some.injEq, Nat.compare_eq_lt]

include h h' in
theorem signed_le_signed_iff : signed false bits ≤ signed false bits' ↔ bits ≤ bits' := by
  rw [float_le_iff, compare_signed h h', Option.any_some, Nat.isLE_compare]

end

/-! ### Packing -/

theorem eq_signed {x : Float} {bits : Nat} (hbits : bits ≤ infiniteBits)
    (h : x.toBits.toNat = if negative then bits + 2 ^ 63 else bits) : x = signed negative bits := by
  rw [← Float.toBits_inj, ← UInt64.toNat_inj, h]
  rcases hbits.lt_or_eq with hlt | rfl
  · exact (toBits_signed hlt).symm
  · cases negative <;> decide +kernel

/-- A finite double is built from its sign and from the bits of its significand and its place. -/
theorem exists_eq_signed {x : Float} (h : ofFloat x = .finite negative m q) :
    ∃ bits place : Nat, Spells bits m place ∧ q = place + leastExponent ∧ bits < infiniteBits ∧
      x = signed negative bits := by
  have hleast : leastExponent = -1074 := rfl
  have hi : infiniteBits = 2047 * 2 ^ 52 := rfl
  have hword : x.toBits.toNat < 2 ^ 64 := x.toBits.toNat_lt
  obtain ⟨hsign, hfull, hparts⟩ := fields_of_ofBits h
  have hbits : x.toBits.toNat % 2 ^ 63 < infiniteBits := by omega
  refine ⟨x.toBits.toNat % 2 ^ 63, (q - leastExponent).toNat, ?_, by omega, hbits,
    eq_signed hbits.le ?_⟩
  · rcases hparts with ⟨hzero, hm, hq⟩ | ⟨hzero, hm, hq⟩
    · exact ⟨by omega, by omega, by omega⟩
    · exact ⟨by omega, by omega, by omega⟩
  · cases negative
    · have : x.toBits.toNat / 2 ^ 63 % 2 ≠ 1 := by simpa using hsign
      rw [if_neg Bool.false_ne_true]
      omega
    · have : x.toBits.toNat / 2 ^ 63 % 2 = 1 := by simpa using hsign
      rw [if_pos rfl]
      omega

theorem toNat_packComponents (s : Sign) (e : BitVec 11) (v : BitVec 52) :
    (packComponents Format.binary64 s e v).toNat =
      s.toBitVec.toNat * 2 ^ 63 + e.toNat * 2 ^ 52 + v.toNat := by
  have he := e.isLt
  unfold packComponents
  rw [BitVec.toNat_append, BitVec.toNat_append, ← Nat.shiftLeft_add_eq_or_of_lt v.isLt,
    ← Nat.shiftLeft_add_eq_or_of_lt e.isLt, Nat.shiftLeft_eq, Nat.shiftLeft_eq]
  ring

/-- Bits with a sign, as a number. -/
theorem toNat_packComponents_signOf (e : BitVec 11) (v : BitVec 52) :
    (packComponents Format.binary64 (signOf negative) e v).toNat =
      if negative then e.toNat * 2 ^ 52 + v.toNat + 2 ^ 63 else e.toNat * 2 ^ 52 + v.toNat := by
  rw [toNat_packComponents]
  cases negative
  · show 0 * 2 ^ 63 + _ + _ = _
    simp
  · show 1 * 2 ^ 63 + _ + _ = _
    simp
    ring

/-- A significand at its place is packed into its bits, and into those of infinity when it is too
great. -/
theorem toNat_pack {bits place : Nat} (hs : Spells bits m place) (hm : 0 < m) :
    (UnpackedFloat.pack Format.binary64
      (.finite (signOf negative) m (place + leastExponent) hm)).toNat =
        if negative then min bits infiniteBits + 2 ^ 63 else min bits infiniteBits := by
  have hbits := hs.bits_eq
  have hlt := hs.lt
  have hfull := hs.full
  have hinfinite : infiniteBits = 2047 * 2 ^ 52 := rfl
  have hbiased : ((place : Int) + leastExponent + (Format.binary64.exponentBias : Nat) +
      (52 : Nat)).toNat = place + 1 := by
    have hbias : ((Format.binary64.exponentBias : Nat) : Int) = 1023 := rfl
    have hleast : leastExponent = -1074 := rfl
    omega
  unfold UnpackedFloat.pack
  dsimp only
  rw [hbiased]
  by_cases hover : 2 ^ 11 ≤ place + 1 + 1
  · rw [if_pos hover, packedInfinity, toNat_packComponents_signOf, min_eq_right (by omega)]
    rfl
  · rw [if_neg hover, min_eq_left (by omega)]
    by_cases hnormal : m.log2 + 1 = Format.binary64.mantissaBits
    · have hlog : m.log2 = 52 := Nat.succ.inj hnormal
      have hlow : 2 ^ 52 ≤ m := ((Nat.log2_eq_iff hm.ne').1 hlog).1
      have he : (BitVec.ofNat 11 (place + 1)).toNat = place + 1 := by
        rw [BitVec.toNat_ofNat, Nat.mod_eq_of_lt (by omega)]
      have hv : (BitVec.ofNat 52 m).toNat = m - 2 ^ 52 := by
        rw [BitVec.toNat_ofNat]
        omega
      have hsum : (place + 1) * 2 ^ 52 + (m - 2 ^ 52) = bits := by omega
      rw [if_pos hnormal, toNat_packComponents_signOf, he, hv, hsum]
    · have hsmall : m < 2 ^ 52 := by
        by_contra hlow
        exact hnormal (congrArg Nat.succ ((Nat.log2_eq_iff hm.ne').2 ⟨Nat.not_lt.1 hlow, hlt⟩))
      have hv : (BitVec.ofNat 52 m).toNat = m := by
        rw [BitVec.toNat_ofNat, Nat.mod_eq_of_lt hsmall]
      have hsum : (0#11).toNat * 2 ^ 52 + m = bits := by
        rw [BitVec.toNat_zero]
        omega
      rw [if_neg hnormal, toNat_packComponents_signOf, hv, hsum]

theorem ofModel_pack_zero (negative : Bool) :
    Float.ofModel (Float.Model.pack (.zero (signOf negative))) = signed negative 0 :=
  eq_signed (Nat.zero_le _) (toNat_packComponents_signOf 0 0)

theorem ofModel_pack {bits place : Nat} (hs : Spells bits m place) :
    Float.ofModel (Float.Model.pack (unpacked negative m (place + leastExponent))) =
      signed negative (min bits infiniteBits) := by
  by_cases hm : m = 0
  · rw [hs.bits_eq_zero_iff.2 hm, hm, unpacked_zero, Nat.zero_min]
    exact ofModel_pack_zero negative
  · rw [unpacked_of_ne_zero hm]
    exact eq_signed (min_le_right _ _) (toNat_pack hs (Nat.pos_of_ne_zero hm))

/-! ### Rounding -/

/-- What is left of the fraction `n / D` as a significand: the quotient, whether the rest is at least
one half, and whether it is neither nothing nor one half. -/
structure IsResidue (n D : Nat) (em : ExtendedMantissa) : Prop where
  mantissa : em.mantissa = n / D
  roundBit : em.roundBit = true ↔ D ≤ 2 * (n % D)
  stickyBit : em.stickyBit = true ↔ 2 * (n % D) ≠ 0 ∧ 2 * (n % D) ≠ D

theorem IsResidue.shiftRightOne {n D : Nat} {em : ExtendedMantissa} (h : IsResidue n D em)
    (hD : 0 < D) : IsResidue n (D * 2) em.shiftRightOne := by
  obtain ⟨hm, hr, hs⟩ := h
  have hsplit : n % (D * 2) = n % D + D * (n / D % 2) := Nat.mod_mul
  have hlt : n % D < D := Nat.mod_lt _ hD
  refine ⟨?_, ?_, ?_⟩
  · show _ / 2 = _
    rw [hm, Nat.div_div_eq_div_mul]
  · show (_ % 2 != 0) = true ↔ _
    rw [hm, bne_iff_ne, hsplit]
    rcases Nat.mod_two_eq_zero_or_one (n / D) with hbit | hbit
    · rw [hbit]
      omega
    · rw [hbit]
      omega
  · show (_ || _) = true ↔ _
    rw [Bool.or_eq_true, hr, hs, hsplit]
    rcases Nat.mod_two_eq_zero_or_one (n / D) with hbit | hbit
    · rw [hbit]
      omega
    · rw [hbit]
      omega

theorem IsResidue.repeat {n D : Nat} {em : ExtendedMantissa} (h : IsResidue n D em) (hD : 0 < D)
    (k : Nat) : IsResidue n (D * 2 ^ k) (k.repeat ExtendedMantissa.shiftRightOne em) := by
  induction k with
  | zero => rwa [Nat.pow_zero, Nat.mul_one]
  | succ k ih =>
      rw [Nat.pow_succ, ← Nat.mul_assoc]
      exact ih.shiftRightOne (Nat.mul_pos hD (Nat.two_pow_pos k))

/-- The bits that are kept are enough to round as the exact quotient is rounded. -/
theorem IsResidue.roundedMantissa_eq {n D : Nat} {em : ExtendedMantissa} (h : IsResidue n D em) :
    em.roundedMantissa = roundHalfEven n D := by
  obtain ⟨hm, hr, hs⟩ := h
  obtain ⟨mantissa, roundBit, stickyBit⟩ := em
  dsimp only at hm hr hs
  subst hm
  unfold roundHalfEven
  dsimp only
  cases roundBit with
  | false =>
      have hless : 2 * (n % D) < D := by
        rw [← Nat.not_le, ← hr]
        exact Bool.false_ne_true
      rw [if_pos hless]
      cases stickyBit <;> rfl
  | true =>
      have hmore : D ≤ 2 * (n % D) := hr.1 rfl
      rw [if_neg (Nat.not_lt.2 hmore)]
      cases stickyBit with
      | false =>
          have hhalf : ¬ D < 2 * (n % D) := fun hlt =>
            Bool.false_ne_true (hs.2 ⟨by omega, hlt.ne'⟩)
          rw [if_neg hhalf]
          rfl
      | true =>
          obtain ⟨-, hne⟩ := hs.1 rfl
          rw [if_pos (by omega)]
          rfl

/-- What lies above a significand is as accurate as the rest of the division says. -/
theorem isResidue_ofMantissaAndAccuracy (n : Nat) {D : Nat} (hD : 0 < D) :
    IsResidue n D (.ofMantissaAndAccuracy (n / D) (accuracyOfFraction (n % D) D)) := by
  unfold accuracyOfFraction
  by_cases hzero : n % D = 0
  · rw [if_pos hzero]
    exact ⟨rfl, iff_of_false Bool.false_ne_true (by omega), iff_of_false Bool.false_ne_true (by omega)⟩
  · rw [if_neg hzero]
    rcases lt_trichotomy (2 * (n % D)) D with hlt | heq | hgt
    · rw [Nat.compare_eq_lt.2 hlt]
      exact ⟨rfl, iff_of_false Bool.false_ne_true (by omega), iff_of_true rfl (by omega)⟩
    · rw [Nat.compare_eq_eq.2 heq]
      exact ⟨rfl, iff_of_true rfl (by omega), iff_of_false Bool.false_ne_true (by omega)⟩
    · rw [Nat.compare_eq_gt.2 hgt]
      exact ⟨rfl, iff_of_true rfl (by omega), iff_of_true rfl (by omega)⟩

/-- A rounded significand may have one bit too many; once that is shifted out it spells the same
bits. -/
theorem spells_shiftToTargetExponent {r place : Nat} (hr : r ≤ 2 ^ 53)
    (hfull : r < 2 ^ 52 → place = 0) :
    ∃ place' : Nat,
      (shiftToTargetExponent Format.binary64 r (place + leastExponent) .exact).2 =
        place' + leastExponent ∧
      Spells (r + place * 2 ^ 52)
        (shiftToTargetExponent Format.binary64 r (place + leastExponent) .exact).1.mantissa
        place' := by
  have hleast : leastExponent = -1074 := rfl
  have hmin : Format.binary64.minExponent = -1074 := rfl
  have hbits : Format.binary64.mantissaBits = 53 := rfl
  rcases hr.lt_or_eq with hlt | rfl
  · have hlog : r.log2 ≤ 52 := by
      by_cases hzero : r = 0
      · rw [hzero]
        decide
      · exact Nat.lt_succ_iff.1 ((Nat.log2_lt hzero).2 hlt)
    have hshift : (Format.binary64.targetExponent (totalExponent r (place + leastExponent)) -
        (place + leastExponent)).toNat = 0 := by
      unfold Format.targetExponent totalExponent
      omega
    unfold shiftToTargetExponent shiftToExponent
    dsimp only
    rw [hshift]
    exact ⟨place, by rw [Nat.cast_zero, Int.add_zero], rfl, hlt, hfull⟩
  · have hshift : (Format.binary64.targetExponent
        (totalExponent (2 ^ 53) (place + leastExponent)) - (place + leastExponent)).toNat = 1 := by
      unfold Format.targetExponent totalExponent
      rw [Nat.log2_two_pow]
      omega
    unfold shiftToTargetExponent shiftToExponent
    dsimp only
    rw [hshift]
    refine ⟨place + 1, by omega, ?_⟩
    show Spells _ (2 ^ 53 / 2) _
    exact ⟨by omega, by omega, by omega⟩

theorem exists_lastPlace_eq (num den : Nat) :
    ∃ place : Nat, lastPlace num den = place + leastExponent := by
  have hleast : leastExponent ≤ lastPlace num den := le_max_right _ _
  exact ⟨(lastPlace num den - leastExponent).toNat, by omega⟩

section

variable {num den M : Nat} {E : Int} (hM : M ≠ 0) (hden : den ≠ 0)

include hM hden in
theorem highestPlace_eq_of_mem (hnum : num ≠ 0) (hlow : M * 2 ^ E ≤ (num : ℚ) / den)
    (hhigh : (num : ℚ) / den < (M + 1) * 2 ^ E) : highestPlace num den = M.log2 + E := by
  obtain ⟨hreached, hbound⟩ := highestPlace_mem hnum hden
  obtain ⟨hlogLow, hlogHigh⟩ := log2_mem hM
  have hpos := two_zpow_pos E
  have hcarry : (M : ℚ) + 1 ≤ 2 ^ ((M.log2 : Int) + 1) := by
    rw [show ((M.log2 : Int) + 1) = ((M.log2 + 1 : Nat) : Int) from rfl, zpow_natCast] at hlogHigh ⊢
    exact_mod_cast hlogHigh
  have hbelow : (2 : ℚ) ^ highestPlace num den < 2 ^ ((M.log2 : Int) + 1 + E) := by
    rw [zpow_add₀ (by norm_num) (_ + 1)]
    exact (hreached.trans_lt hhigh).trans_le (mul_le_mul_of_nonneg_right hcarry hpos.le)
  have habove : (2 : ℚ) ^ ((M.log2 : Int) + E) < 2 ^ (highestPlace num den + 1) := by
    rw [zpow_add₀ (by norm_num) (M.log2 : Int)]
    exact ((mul_le_mul_of_nonneg_right hlogLow hpos.le).trans hlow).trans_lt hbound
  rw [zpow_lt_zpow_iff_right₀ (by norm_num)] at hbelow habove
  omega

section

variable (hratio : (num : ℚ) / den = M * 2 ^ E)
include hM hratio

theorem num_ne_zero_of_ratio : num ≠ 0 := by
  rintro rfl
  rw [Nat.cast_zero, zero_div] at hratio
  exact absurd hratio (mul_pos (Nat.cast_pos.2 (Nat.pos_of_ne_zero hM)) (two_zpow_pos E)).ne

include hden

theorem highestPlace_eq : highestPlace num den = M.log2 + E := by
  refine highestPlace_eq_of_mem hM hden (num_ne_zero_of_ratio hM hratio) hratio.ge ?_
  rw [hratio]
  exact mul_lt_mul_of_pos_right (lt_add_one _) (two_zpow_pos E)

end

end

section

variable {num den n D : Nat} {E : Int} (hnum : num ≠ 0) (hden : den ≠ 0) (hD : 0 < D)
  (hratio : (num : ℚ) / den = n / D * 2 ^ E)

include hden hD hratio

theorem inUnits_eq {q : Int} (hq : E ≤ q) :
    inUnits num den q = roundHalfEven n (D * 2 ^ (q - E).toNat) := by
  have hpos : (D : ℚ) ≠ 0 := Nat.cast_ne_zero.2 hD.ne'
  obtain ⟨a, b, hb, hab, hunits⟩ := exists_inUnits_eq num hden q
  rw [hunits]
  apply roundHalfEven_congr hb (Nat.mul_pos hD (Nat.two_pow_pos _)).ne'
  rw [hab, hratio, Nat.cast_mul, Nat.cast_pow, Nat.cast_ofNat, ← zpow_natCast,
    Int.toNat_of_nonneg (by omega), zpow_sub₀ (by norm_num)]
  field_simp

include hnum

/-- The place to which the significand of a fraction is shifted, if it has any bits or its place is
low enough. -/
theorem targetExponent_eq (hM : n / D ≠ 0 ∨ E ≤ leastExponent) :
    Format.binary64.targetExponent (totalExponent (n / D) E) = lastPlace num den := by
  have hleast : leastExponent = -1074 := rfl
  have hmin : Format.binary64.minExponent = -1074 := rfl
  have hbits : Format.binary64.mantissaBits = 53 := rfl
  have hDpos : (0 : ℚ) < D := Nat.cast_pos.2 hD
  have hhigh : (num : ℚ) / den < ((n / D : Nat) + 1) * 2 ^ E := by
    rw [hratio]
    refine mul_lt_mul_of_pos_right ?_ (two_zpow_pos E)
    rw [div_lt_iff₀ hDpos]
    exact_mod_cast Nat.lt_mul_of_div_lt (Nat.lt_succ_self (n / D)) hD
  by_cases hzero : n / D = 0
  · rw [hzero, Nat.cast_zero, zero_add, one_mul] at hhigh
    have hplace := (highestPlace_mem hnum hden).1.trans_lt hhigh
    rw [zpow_lt_zpow_iff_right₀ (by norm_num)] at hplace
    rw [hzero]
    unfold Format.targetExponent totalExponent lastPlace
    rw [Nat.log2_zero]
    omega
  · have hlow : ((n / D : Nat) : ℚ) * 2 ^ E ≤ (num : ℚ) / den := by
      rw [hratio]
      exact mul_le_mul_of_nonneg_right Nat.cast_div_le (two_zpow_pos E).le
    unfold Format.targetExponent totalExponent lastPlace
    rw [highestPlace_eq_of_mem hzero hden hnum hlow hhigh]
    omega

variable (hM : n / D ≠ 0 ∨ E ≤ leastExponent) (hE : E ≤ lastPlace num den)
include hM hE

/-- The first shift goes to the last place of the nearest double and rounds in units of it. -/
theorem shiftToTargetExponent_eq :
    (shiftToTargetExponent Format.binary64 (n / D) E (accuracyOfFraction (n % D) D)).2 =
        lastPlace num den ∧
      (shiftToTargetExponent Format.binary64 (n / D) E
        (accuracyOfFraction (n % D) D)).1.roundedMantissa = inUnits num den (lastPlace num den) := by
  unfold shiftToTargetExponent shiftToExponent
  rw [targetExponent_eq hnum hden hD hratio hM]
  constructor
  · show E + ((lastPlace num den - E).toNat : Int) = lastPlace num den
    omega
  · rw [inUnits_eq hden hD hratio hE]
    exact ((isResidue_ofMantissaAndAccuracy n hD).repeat hD _).roundedMantissa_eq

/-- A fraction with enough bits, or low enough ones, is rounded to the nearest double. -/
theorem ofModel_pack_roundWithAccuracy :
    Float.ofModel (Float.Model.pack (roundWithAccuracy Format.binary64 (signOf negative) (n / D) E
      (accuracyOfFraction (n % D) D))) = nearest negative num den := by
  obtain ⟨place, hplace⟩ := exists_lastPlace_eq num den
  have hfull : inUnits num den (lastPlace num den) < 2 ^ 52 → place = 0 := by
    intro hsmall
    have := lastPlace_eq_of_inUnits_lt hnum hden hsmall
    omega
  have hbits : nearestBits num den =
      min (inUnits num den (lastPlace num den) + place * 2 ^ 52) infiniteBits := by
    have hcount : (lastPlace num den - leastExponent).toNat = place := by omega
    unfold nearestBits
    dsimp only
    rw [if_neg hnum, hcount, twoPow_eq]
  obtain ⟨hexponent, hrounded⟩ := shiftToTargetExponent_eq hnum hden hD hratio hM hE
  obtain ⟨place', hcarried, hs⟩ :=
    spells_shiftToTargetExponent (inUnits_lastPlace_le hnum hden) hfull
  rw [← hplace] at hcarried hs
  unfold roundWithAccuracy
  simp only [hexponent, hrounded, hcarried]
  rw [nearest, hbits]
  exact ofModel_pack hs

end

/-! ### Products -/

theorem exists_nearestScaled_eq (negative : Bool) (m : Nat) (q : Int) :
    ∃ num den : Nat, den ≠ 0 ∧ (num : ℚ) / den = m * 2 ^ q ∧
      nearestScaled negative m q = nearest negative num den := by
  unfold nearestScaled
  by_cases hq : 0 ≤ q
  · refine ⟨m * twoPow q.toNat, 1, Nat.one_ne_zero, ?_, if_pos hq⟩
    rw [Nat.cast_mul, cast_twoPow_toNat hq, Nat.cast_one, div_one]
  · refine ⟨m, twoPow (-q).toNat, (twoPow_pos _).ne', ?_, if_neg hq⟩
    rw [cast_twoPow_toNat (by omega), zpow_neg, div_inv_eq_mul]

theorem nearestScaled_zero (negative : Bool) (q : Int) :
    nearestScaled negative 0 q = signed negative 0 := by
  have hzero (den : Nat) : nearestBits 0 den = 0 := if_pos rfl
  unfold nearestScaled nearest
  rw [Nat.zero_mul, hzero, hzero, ite_self]

/-- A product is never spelled with too few bits: one factor has all of its own, or both are among
the smallest doubles. -/
theorem Spells.exponent_mul_le {bits bits' m m' place place' : Nat} (hs : Spells bits m place)
    (hs' : Spells bits' m' place') (hM : m * m' ≠ 0) :
    (place + leastExponent : Int) + (place' + leastExponent) ≤
      max ((m * m').log2 + (place + leastExponent + (place' + leastExponent)) - 52)
        leastExponent := by
  obtain ⟨hm, hm'⟩ := Nat.mul_ne_zero_iff.1 hM
  by_cases hsmall : m < 2 ^ 52 ∧ m' < 2 ^ 52
  · have hleast : leastExponent = -1074 := rfl
    have := hs.full hsmall.1
    have := hs'.full hsmall.2
    omega
  · have hlow : 2 ^ 52 ≤ m * m' := by
      rcases not_and_or.1 hsmall with h | h
      · exact (Nat.not_lt.1 h).trans (Nat.le_mul_of_pos_right m (Nat.pos_of_ne_zero hm'))
      · exact (Nat.not_lt.1 h).trans (Nat.le_mul_of_pos_left m' (Nat.pos_of_ne_zero hm))
    have hlog : 52 ≤ (m * m').log2 := (Nat.le_log2 hM).2 hlow
    omega

/-- The product of two finite doubles is the double nearest to the product of their numbers. -/
theorem mul_eq_nearestScaled {x y : Float} {negative negative' : Bool} {m m' : Nat} {q q' : Int}
    (hx : ofFloat x = .finite negative m q) (hy : ofFloat y = .finite negative' m' q') :
    x * y = nearestScaled (negative != negative') (m * m') (q + q') := by
  have hmul : x * y = Float.ofModel (Float.Model.pack
      (UnpackedFloat.mul Format.binary64 x.toModel.unpack y.toModel.unpack)) := rfl
  obtain ⟨place, hs, hq⟩ := exists_spells_of_ofFloat hx
  obtain ⟨place', hs', hq'⟩ := exists_spells_of_ofFloat hy
  rw [hmul, unpack_of_ofFloat hx, unpack_of_ofFloat hy]
  by_cases hm : m = 0
  · rw [hm, unpacked_zero, Nat.zero_mul, nearestScaled_zero, ← ofModel_pack_zero, ← signOf_mul,
      unpacked]
    split <;> rfl
  · rw [unpacked_of_ne_zero hm]
    by_cases hm' : m' = 0
    · rw [hm', unpacked_zero, Nat.mul_zero, nearestScaled_zero, ← ofModel_pack_zero, ← signOf_mul]
      rfl
    · rw [unpacked_of_ne_zero hm']
      have hM : m * m' ≠ 0 := Nat.mul_ne_zero hm hm'
      obtain ⟨num, den, hden, hratio, hnearest⟩ :=
        exists_nearestScaled_eq (negative != negative') (m * m') (q + q')
      rw [hnearest]
      show Float.ofModel (Float.Model.pack (roundWithAccuracy Format.binary64
        (signOf negative * signOf negative') (m * m') (q + q') .exact)) = _
      have hwhole : (num : ℚ) / den = (m * m' : Nat) / (1 : Nat) * 2 ^ (q + q') := by
        rw [Nat.cast_one, div_one, hratio]
      refine Eq.trans ?_ (ofModel_pack_roundWithAccuracy (num_ne_zero_of_ratio hM hratio) hden
        Nat.one_pos hwhole (.inl (by rwa [Nat.div_one])) ?_)
      · rw [signOf_mul, Nat.div_one, Nat.mod_one]
        rfl
      · rw [lastPlace, highestPlace_eq hM hden hratio, hq, hq']
        exact hs.exponent_mul_le hs' hM

/-! ### Quotients -/

theorem signOf_div (a b : Bool) : signOf a / signOf b = signOf (a != b) := by
  cases a <;> cases b <;> rfl

def quotientExponent (m : Nat) (q : Int) (m' : Nat) (q' : Int) : Int :=
  min (q - q') (Format.binary64.targetExponent (totalExponent m q - totalExponent m' q'))

def dividend (m : Nat) (q : Int) (m' : Nat) (q' : Int) : Nat :=
  m * 2 ^ (q - q' - quotientExponent m q m' q').toNat

theorem divCore_eq (m : Nat) (q : Int) (m' : Nat) (q' : Int) :
    divCore Format.binary64 m q m' q' =
      (dividend m q m' q' / m', quotientExponent m q m' q',
        accuracyOfFraction (dividend m q m' q' % m') m') := by
  unfold divCore dividend quotientExponent
  simp only [Nat.shiftLeft_eq]

section

variable {m m' : Nat} {q q' : Int} (hm : m ≠ 0) (hm' : m' ≠ 0)
include hm hm'

theorem exists_ratio_eq (q q' : Int) : ∃ num den : Nat, num ≠ 0 ∧ den ≠ 0 ∧
    (num : ℚ) / den = m * 2 ^ q / (m' * 2 ^ q') := by
  refine ⟨m * 2 ^ (q - q').toNat, m' * 2 ^ (q' - q).toNat,
    Nat.mul_ne_zero hm (Nat.two_pow_pos _).ne', Nat.mul_ne_zero hm' (Nat.two_pow_pos _).ne', ?_⟩
  have hsplit : (2 : ℚ) ^ q * 2 ^ (q' - q).toNat = 2 ^ (q - q').toNat * 2 ^ q' := by
    rw [← zpow_natCast, ← zpow_natCast, ← zpow_add₀ (by norm_num), ← zpow_add₀ (by norm_num)]
    congr 1
    omega
  have hcast : (m' : ℚ) ≠ 0 := Nat.cast_ne_zero.2 hm'
  rw [div_eq_div_iff (by positivity) (by positivity)]
  push_cast
  calc (m : ℚ) * 2 ^ (q - q').toNat * (m' * 2 ^ q')
      = m * m' * (2 ^ (q - q').toNat * 2 ^ q') := by ring
    _ = m * m' * (2 ^ q * 2 ^ (q' - q).toNat) := by rw [hsplit]
    _ = m * 2 ^ q * (m' * 2 ^ (q' - q).toNat) := by ring

omit hm in
theorem dividend_div_mul : (dividend m q m' q' : ℚ) / m' * 2 ^ quotientExponent m q m' q' =
    m * 2 ^ q / (m' * 2 ^ q') := by
  have hle : quotientExponent m q m' q' ≤ q - q' := min_le_left _ _
  have hcast : (m' : ℚ) ≠ 0 := Nat.cast_ne_zero.2 hm'
  have hpower : (2 : ℚ) ^ (q - q' - quotientExponent m q m' q').toNat *
      2 ^ quotientExponent m q m' q' = 2 ^ q / 2 ^ q' := by
    rw [← zpow_natCast, ← zpow_add₀ (by norm_num), ← zpow_sub₀ (by norm_num)]
    congr 1
    omega
  unfold dividend
  push_cast
  rw [div_mul_eq_mul_div, mul_assoc, hpower]
  field_simp

/-- The quotient has all the bits of a double unless its place is the least one or below. -/
theorem dividend_div_ne_zero :
    dividend m q m' q' / m' ≠ 0 ∨ quotientExponent m q m' q' ≤ leastExponent := by
  have hleast : leastExponent = -1074 := rfl
  have hmin : Format.binary64.minExponent = -1074 := rfl
  have hbits : Format.binary64.mantissaBits = 53 := rfl
  rw [or_iff_not_imp_right]
  intro hplace
  have hshift : m'.log2 + 1 ≤ m.log2 + (q - q' - quotientExponent m q m' q').toNat := by
    unfold quotientExponent Format.targetExponent totalExponent at hplace ⊢
    omega
  obtain ⟨hlow, -⟩ := (Nat.log2_eq_iff hm).1 rfl
  obtain ⟨-, hhigh⟩ := (Nat.log2_eq_iff hm').1 rfl
  have hle : m' ≤ dividend m q m' q' := by
    calc m' ≤ 2 ^ (m'.log2 + 1) := hhigh.le
      _ ≤ 2 ^ (m.log2 + (q - q' - quotientExponent m q m' q').toNat) :=
          Nat.pow_le_pow_right (by norm_num) hshift
      _ ≤ dividend m q m' q' := by
          rw [pow_add]
          exact Nat.mul_le_mul_right _ hlow
  exact (Nat.div_pos hle (Nat.pos_of_ne_zero hm')).ne'

theorem quotientExponent_le {num den : Nat} (hnum : num ≠ 0) (hden : den ≠ 0)
    (hratio : (num : ℚ) / den = m * 2 ^ q / (m' * 2 ^ q')) :
    quotientExponent m q m' q' ≤ lastPlace num den := by
  have hleast : leastExponent = -1074 := rfl
  have hmin : Format.binary64.minExponent = -1074 := rfl
  have hbits : Format.binary64.mantissaBits = 53 := rfl
  have hhighest : (m.log2 : Int) + q - (m'.log2 + 1 + q') < highestPlace num den + 1 := by
    have hbound := (highestPlace_mem hnum hden).2
    obtain ⟨hlow, -⟩ := log2_mem hm
    obtain ⟨-, hhigh⟩ := log2_mem hm'
    have hcast : (0 : ℚ) < m' := Nat.cast_pos.2 (Nat.pos_of_ne_zero hm')
    rw [← zpow_lt_zpow_iff_right₀ (one_lt_two : (1 : ℚ) < 2)]
    refine lt_of_le_of_lt ?_ hbound
    rw [hratio, zpow_sub₀ (by norm_num), zpow_add₀ (by norm_num), zpow_add₀ (by norm_num) _ q']
    exact div_le_div₀ (by positivity) (mul_le_mul_of_nonneg_right hlow (two_zpow_pos q).le)
      (by positivity) (mul_le_mul_of_nonneg_right hhigh.le (two_zpow_pos q').le)
  unfold quotientExponent Format.targetExponent totalExponent lastPlace
  omega

end

/-- The quotient of two finite doubles is the double nearest to the quotient of their numbers. -/
theorem exists_div_eq_nearest {x y : Float} {negative negative' : Bool} {m m' : Nat} {q q' : Int}
    (hx : ofFloat x = .finite negative m q) (hy : ofFloat y = .finite negative' m' q')
    (hm' : m' ≠ 0) :
    ∃ num den : Nat, den ≠ 0 ∧ (num : ℚ) / den = m * 2 ^ q / (m' * 2 ^ q') ∧
      x / y = nearest (negative != negative') num den := by
  have hdiv : x / y = Float.ofModel (Float.Model.pack
      (UnpackedFloat.div Format.binary64 x.toModel.unpack y.toModel.unpack)) := rfl
  rw [hdiv, unpack_of_ofFloat hx, unpack_of_ofFloat hy, unpacked_of_ne_zero hm']
  by_cases hm : m = 0
  · refine ⟨0, 1, one_ne_zero, by simp [hm], ?_⟩
    have hzero : nearest (negative != negative') 0 1 = signed (negative != negative') 0 := rfl
    rw [hm, unpacked_zero, hzero, ← ofModel_pack_zero, ← signOf_div]
    rfl
  · obtain ⟨num, den, hnum, hden, hratio⟩ := exists_ratio_eq hm hm' q q'
    refine ⟨num, den, hden, hratio, ?_⟩
    rw [unpacked_of_ne_zero hm]
    refine Eq.trans ?_ (ofModel_pack_roundWithAccuracy hnum hden (Nat.pos_of_ne_zero hm')
      (hratio.trans (dividend_div_mul hm').symm) (dividend_div_ne_zero hm hm')
      (quotientExponent_le hm hm' hnum hden hratio))
    show Float.ofModel (Float.Model.pack (roundWithAccuracy Format.binary64
      (signOf negative / signOf negative') (divCore Format.binary64 m q m' q').1
        (divCore Format.binary64 m q m' q').2.1 (divCore Format.binary64 m q m' q').2.2)) = _
    rw [divCore_eq, signOf_div]

/-- A divisor that is not below one keeps a double finite. -/
theorem isFinite_div {x y : Float} {negative : Bool} {m : Nat} {q : Int} (hx : x.isFinite = true)
    (hy : ofFloat y = .finite negative m q) (hone : 1 ≤ (m : ℚ) * 2 ^ q) :
    (x / y).isFinite = true := by
  have hm : m ≠ 0 := by
    rintro rfl
    norm_num at hone
  obtain ⟨negative', m', q', hx'⟩ := exists_ofFloat_eq_finite hx
  obtain ⟨num, den, hden, hratio, hdiv⟩ := exists_div_eq_nearest hx' hy hm
  rw [hdiv, isFinite_nearest_iff, ← (nearestBits_le num den).lt_iff_ne,
    nearestBits_lt_infiniteBits_iff hden, hratio]
  refine (div_le_self ?_ hone).trans_lt (magnitude_lt_leastTooLarge hx')
  positivity

end Appraisal.Binary
