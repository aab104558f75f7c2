import Mathlib
import Appraisal.Proofs.Number.Digits

/-!
# Bits of doubles

A double that is built from bits is finite when the field of its exponent is not full, so the doubles
nearest to ratios are finite up to the bits of infinity. A finite double keeps the bits that it is
built from, and stands for the binary fraction that they spell.
-/

namespace Appraisal

namespace Binary

open Float.Model UnpackedFloat

abbrev exponentField (b : BitVec 64) : BitVec 11 := @unpackExponent Format.binary64 b

theorem toNat_exponentField (b : BitVec 64) :
    (exponentField b).toNat = b.toNat / 2 ^ 52 % 2 ^ 11 := by
  simp [unpackExponent, Nat.shiftRight_eq_div_pow]

theorem toNat_mantissaField (b : BitVec 64) :
    (@unpackMantissa Format.binary64 b).toNat = b.toNat % 2 ^ 52 := by
  simp [unpackMantissa]

theorem exponentField_eq_iff (b : BitVec 64) :
    exponentField b = 2047#11 ↔ b.toNat / 2 ^ 52 % 2 ^ 11 = 2047 := by
  rw [← toNat_exponentField]
  exact ⟨fun h => by rw [h]; rfl, fun h => BitVec.eq_of_toNat_eq h⟩

theorem isFinite_unpack_iff (b : BitVec 64) :
    (UnpackedFloat.unpack Format.binary64 b).isFinite = true ↔ exponentField b ≠ 2047#11 := by
  unfold UnpackedFloat.unpack
  by_cases he : exponentField b = 2047#11
  · by_cases hm : @unpackMantissa Format.binary64 b = 0#52 <;>
      simp [he, hm, UnpackedFloat.isFinite]
  · by_cases hz : exponentField b = 0#11
    · by_cases hm : @unpackMantissa Format.binary64 b = 0#52 <;>
        simp [hz, hm, UnpackedFloat.isFinite]
    · simp [he, hz, UnpackedFloat.isFinite]

/-- A double that is built from bits is finite when the field of its exponent is not full. -/
theorem isFinite_ofBits_iff (b : UInt64) :
    (Float.ofBits b).isFinite = true ↔ exponentField b.toBitVec ≠ 2047#11 := by
  have hpacked : (Float.ofBits b).isFinite = (UnpackedFloat.unpack Format.binary64
      (UnpackedFloat.pack Format.binary64
        (UnpackedFloat.unpack Format.binary64 b.toBitVec))).isFinite := rfl
  rw [hpacked, UnpackedFloat.pack_unpack]
  by_cases hnan : @UnpackedFloat.isNaNBits Format.binary64 b.toBitVec = true
  · have hfull : exponentField b.toBitVec = 2047#11 := (of_decide_eq_true hnan).1
    rw [if_pos hnan, UnpackedFloat.unpack_packedNaN]
    simp [UnpackedFloat.isFinite, hfull]
  · rw [if_neg hnan, isFinite_unpack_iff]

/-- A sign is packed apart from the exponent. -/
theorem exponentField_pack_neg (u : UnpackedFloat) :
    exponentField (UnpackedFloat.pack Format.binary64 u.neg) =
      exponentField (UnpackedFloat.pack Format.binary64 u) := by
  cases u with
  | notANumber => rfl
  | infinity s => simp [UnpackedFloat.neg, UnpackedFloat.pack, packedInfinity]
  | zero s => simp [UnpackedFloat.neg, UnpackedFloat.pack, packedZero]
  | finite s m e hm =>
      simp only [UnpackedFloat.neg, UnpackedFloat.pack]
      split
      · simp [packedInfinity]
      · split <;> simp

theorem isFinite_neg (x : Float) : (-x).isFinite = x.isFinite := by
  have hneg : (-x).isFinite = (UnpackedFloat.unpack Format.binary64
      (UnpackedFloat.pack Format.binary64
        (UnpackedFloat.unpack Format.binary64 x.toModel.toBits.toBitVec).neg)).isFinite := rfl
  have hbits : x.isFinite =
      (UnpackedFloat.unpack Format.binary64 x.toModel.toBits.toBitVec).isFinite := rfl
  rw [Bool.eq_iff_iff, hneg, hbits, isFinite_unpack_iff, exponentField_pack_neg]
  rw [← isFinite_unpack_iff, isFinite_unpack_iff x.toModel.toBits.toBitVec]
  exact isFinite_ofBits_iff x.toModel.toBits

theorem nearestBits_le (num den : Nat) : nearestBits num den ≤ infiniteBits := by
  unfold nearestBits
  split
  · exact Nat.zero_le _
  · exact Nat.min_le_right _ _

theorem toNat_signedBits {negative : Bool} {bits : Nat} (h : bits ≤ infiniteBits) :
    (UInt64.ofNat (if negative then bits + twoPow 63 else bits)).toBitVec.toNat =
      if negative then bits + 2 ^ 63 else bits := by
  have hi : infiniteBits = 2047 * 2 ^ 52 := rfl
  have hs : twoPow 63 = 2 ^ 63 := rfl
  rw [UInt64.toNat_toBitVec, UInt64.toNat_ofNat']
  cases negative <;> simp only [Bool.false_eq_true, if_true, if_false] <;> omega

/-- A double with a sign is finite up to the bits of infinity. -/
theorem isFinite_signed_iff {negative : Bool} {bits : Nat} (h : bits ≤ infiniteBits) :
    (signed negative bits).isFinite = true ↔ bits ≠ infiniteBits := by
  have hi : infiniteBits = 2047 * 2 ^ 52 := rfl
  rw [signed, isFinite_ofBits_iff, Ne, exponentField_eq_iff, toNat_signedBits h]
  cases negative <;> simp only [Bool.false_eq_true, if_true, if_false] <;> omega

theorem isFinite_nearest_iff {negative : Bool} {num den : Nat} :
    (nearest negative num den).isFinite = true ↔ nearestBits num den ≠ infiniteBits :=
  isFinite_signed_iff (nearestBits_le num den)

/-! ### Finite doubles -/

section

variable {b : UInt64} (h : exponentField b.toBitVec ≠ 2047#11)
include h

/-- Packing does not change the bits of a finite double. -/
theorem pack_unpack_of_finite :
    UnpackedFloat.pack Format.binary64 (UnpackedFloat.unpack Format.binary64 b.toBitVec) =
      b.toBitVec := by
  rw [UnpackedFloat.pack_unpack, if_neg]
  exact fun hnan => h (of_decide_eq_true hnan).1

theorem toBits_ofBits : (Float.ofBits b).toBits = b := by
  have hpacked : (Float.ofBits b).toBits = UInt64.ofBitVec (UnpackedFloat.pack Format.binary64
      (UnpackedFloat.unpack Format.binary64 b.toBitVec)) := rfl
  rw [hpacked, pack_unpack_of_finite h]

theorem isNaN_ofBits : (Float.ofBits b).isNaN = false := by
  have hpacked : (Float.ofBits b).isNaN = (UnpackedFloat.unpack Format.binary64
      (UnpackedFloat.pack Format.binary64
        (UnpackedFloat.unpack Format.binary64 b.toBitVec))).isNaN := rfl
  have hfinite := (isFinite_unpack_iff b.toBitVec).2 h
  rw [hpacked, pack_unpack_of_finite h]
  cases hu : UnpackedFloat.unpack Format.binary64 b.toBitVec with
  | notANumber =>
      rw [hu] at hfinite
      cases hfinite
  | _ => rfl

end

/-- The bits of a zero are none but that of its sign. -/
theorem mod_eq_zero_of_unpack {b : BitVec 64} {s : Sign}
    (h : UnpackedFloat.unpack Format.binary64 b = .zero s) : b.toNat % 2 ^ 63 = 0 := by
  unfold UnpackedFloat.unpack at h
  by_cases hexponent : exponentField b = 0#11
  · by_cases hmantissa : @unpackMantissa Format.binary64 b = 0#52
    · have he := toNat_exponentField b
      have hm := toNat_mantissaField b
      rw [hexponent] at he
      rw [hmantissa] at hm
      simp only [BitVec.toNat_ofNat, Nat.zero_mod] at he hm
      omega
    · simp [hexponent, hmantissa] at h
  · by_cases hfull : exponentField b = 2047#11
    · by_cases hm : @unpackMantissa Format.binary64 b = 0#52 <;> simp [hfull, hm] at h
    · simp [hexponent, hfull] at h

theorem mod_eq_zero_of_beq_zero {b : UInt64} (h : exponentField b.toBitVec ≠ 2047#11)
    (hzero : (Float.ofBits b == 0) = true) : b.toBitVec.toNat % 2 ^ 63 = 0 := by
  have hpacked : (Float.ofBits b == 0) = (UnpackedFloat.unpack Format.binary64
      (UnpackedFloat.pack Format.binary64
        (UnpackedFloat.unpack Format.binary64 b.toBitVec))).beq (.zero .positive) := rfl
  rw [hpacked, pack_unpack_of_finite h] at hzero
  cases hu : UnpackedFloat.unpack Format.binary64 b.toBitVec with
  | zero s => exact mod_eq_zero_of_unpack hu
  | notANumber =>
      rw [hu] at hzero
      cases hzero
  | infinity s =>
      rw [hu] at hzero
      cases s <;> cases hzero
  | finite s m e hm =>
      rw [hu] at hzero
      cases s <;> cases hzero

section

variable {negative : Bool} {bits : Nat} (h : bits < infiniteBits)
include h

theorem exponentField_signedBits :
    exponentField (UInt64.ofNat (if negative then bits + twoPow 63 else bits)).toBitVec ≠
      2047#11 := by
  have hfinite : (signed negative bits).isFinite = true := (isFinite_signed_iff h.le).2 h.ne
  rwa [signed, isFinite_ofBits_iff] at hfinite

theorem toBits_signed :
    (signed negative bits).toBits.toNat = if negative then bits + 2 ^ 63 else bits := by
  rw [signed, toBits_ofBits (exponentField_signedBits h)]
  exact toNat_signedBits h.le

theorem isNaN_signed : (signed negative bits).isNaN = false :=
  isNaN_ofBits (exponentField_signedBits h)

theorem eq_zero_of_beq_zero (hzero : (signed negative bits == 0) = true) : bits = 0 := by
  have hmod := mod_eq_zero_of_beq_zero (exponentField_signedBits h) hzero
  have hi : infiniteBits = 2047 * 2 ^ 52 := rfl
  rw [toNat_signedBits h.le] at hmod
  cases negative
  · simp only [Bool.false_eq_true, if_false] at hmod
    omega
  · simp only [if_true] at hmod
    omega

/-- The binary fraction that bits spell: below the least exponent field they count its units, and
above it the significand has one bit more. -/
theorem ofFloat_signed :
    ofFloat (signed negative bits) =
      if bits / 2 ^ 52 = 0 then .finite negative bits leastExponent
      else .finite negative (2 ^ 52 + bits % 2 ^ 52) ((bits / 2 ^ 52 : Nat) - 1075) := by
  have hi : infiniteBits = 2047 * 2 ^ 52 := rfl
  rw [ofFloat, toBits_signed h, ofBits]
  generalize hword : (if negative = true then bits + 2 ^ 63 else bits) = word
  have hsign : (word / twoPow 63 % 2 == 1) = negative := by
    rw [← hword, twoPow_eq]
    cases negative
    · simp only [Bool.false_eq_true, if_false, beq_eq_false_iff_ne]
      omega
    · simp only [if_true, beq_iff_eq]
      omega
  have hexponent : word / twoPow 52 % twoPow 11 = bits / 2 ^ 52 := by
    rw [← hword, twoPow_eq, twoPow_eq]
    cases negative <;> simp only [Bool.false_eq_true, if_true, if_false] <;> omega
  have hfraction : word % twoPow 52 = bits % 2 ^ 52 := by
    rw [← hword, twoPow_eq]
    cases negative
    · rfl
    · simp only [if_true]
      omega
  rw [hsign, hexponent, hfraction, twoPow_eq, if_neg (by omega)]
  by_cases hzero : bits / 2 ^ 52 = 0
  · rw [if_pos hzero, if_pos hzero, Nat.mod_eq_of_lt (by omega)]
  · rw [if_neg hzero, if_neg hzero]

end

/-! ### Finite or not -/

variable {x : Float}

theorem isFinite_iff_exponentField :
    x.isFinite = true ↔ x.toBits.toNat / twoPow 52 % twoPow 11 ≠ 2047 := by
  have hfields : x.isFinite = (UnpackedFloat.unpack Format.binary64
      x.toModel.toBits.toBitVec).isFinite := rfl
  rw [hfields, isFinite_unpack_iff, Ne, exponentField_eq_iff]
  rfl

theorem exists_ofFloat_eq_finite (h : x.isFinite = true) :
    ∃ negative m q, ofFloat x = .finite negative m q := by
  unfold ofFloat ofBits
  dsimp only
  rw [if_neg (isFinite_iff_exponentField.1 h)]
  split
  · exact ⟨_, _, _, rfl⟩
  · exact ⟨_, _, _, rfl⟩

theorem ofFloat_of_not_isFinite (h : x.isFinite = false) :
    ofFloat x = .nan ∨ ∃ negative, ofFloat x = .infinite negative := by
  have hfull : x.toBits.toNat / twoPow 52 % twoPow 11 = 2047 := by
    by_contra hne
    exact Bool.false_ne_true (h.symm.trans (isFinite_iff_exponentField.2 hne))
  unfold ofFloat ofBits
  dsimp only
  rw [if_pos hfull]
  split
  · exact .inr ⟨_, rfl⟩
  · exact .inl rfl

theorem beq_zero_of_not_isFinite (h : x.isFinite = false) : (x == 0) = false := by
  have hmodel : x.isFinite = x.toModel.unpack.isFinite := rfl
  have hzero : (x == 0) = x.toModel.unpack.beq (.zero .positive) := rfl
  rw [hmodel] at h
  rw [hzero]
  cases hx : x.toModel.unpack with
  | notANumber => rfl
  | infinity s => cases s <;> rfl
  | zero s =>
      rw [hx] at h
      cases h
  | finite s m e hm =>
      rw [hx] at h
      cases h

end Binary

/-- An integer has a double exactly when the double nearest to it is finite. -/
theorem floatOfInt?_eq_some_iff {n : Int} {x : Float} :
    floatOfInt? n = some x ↔
      x.isFinite = true ∧ Binary.nearest (n < 0) n.natAbs 1 = x := by
  unfold floatOfInt?
  by_cases h : Binary.nearestBits n.natAbs 1 = Binary.infiniteBits
  · have hf : ¬ (Binary.nearest (n < 0) n.natAbs 1).isFinite = true := by
      rw [Binary.isFinite_nearest_iff]
      exact fun hn => hn h
    have hx : ¬ (x.isFinite = true ∧ Binary.nearest (n < 0) n.natAbs 1 = x) :=
      fun ⟨hx, he⟩ => hf (he ▸ hx)
    simp [h, hx]
  · have hf : (Binary.nearest (n < 0) n.natAbs 1).isFinite = true :=
      Binary.isFinite_nearest_iff.2 h
    simp only [h, if_false, Option.some.injEq]
    exact ⟨fun he => ⟨he ▸ hf, he⟩, fun he => he.2⟩

end Appraisal
