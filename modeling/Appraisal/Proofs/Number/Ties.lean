import Appraisal.Proofs.Number.Operations

/-!
# The nearest double, ties to even

The double that a ratio is rounded to is as near to it as any finite double, and if another one is just
as near, its own significand is even. There is no other double of which both holds: between two with
even significands there is a third that is nearer. Finite doubles are in the order of the numbers that
they are. The main statements: `nearestBits_eq_iff` and `le_iff_toRat_le`.
-/

namespace Appraisal.Binary

/-! ### Nearest integers -/

theorem roundHalfEven_mod_two {num den : Nat} (hden : 0 < den)
    (h : 2 * (roundHalfEven num den * den) = 2 * num + den ∨
      2 * num = 2 * (roundHalfEven num den * den) + den) : roundHalfEven num den % 2 = 0 := by
  have hnum : num / den * den + num % den = num := Nat.div_add_mod' num den
  have hrest : num % den < den := Nat.mod_lt num hden
  generalize hr : roundHalfEven num den = r at h ⊢
  unfold roundHalfEven at hr
  simp only at hr
  split at hr
  · subst hr
    omega
  · split at hr
    · subst hr
      rw [Nat.add_mul, Nat.one_mul] at h
      omega
    · omega

section

variable {num den j : Nat} (hden : den ≠ 0)
include hden

/-- Any other integer is at least half of one away. -/
theorem half_le_abs_sub (hj : j ≠ roundHalfEven num den) : 1 / 2 ≤ |(j : ℚ) - num / den| := by
  have hround := abs_roundHalfEven_sub_le num hden
  have hone : (1 : ℚ) ≤ |(j : ℚ) - roundHalfEven num den| := by
    by_contra hless
    exact hj (eq_of_abs_sub_lt_one (not_le.1 hless))
  have htriangle := abs_sub_le (j : ℚ) (num / den) (roundHalfEven num den)
  rw [abs_sub_comm ((num : ℚ) / den)] at htriangle
  linarith

theorem roundHalfEven_nearest (num j : Nat) :
    |(roundHalfEven num den : ℚ) - num / den| ≤ |(j : ℚ) - num / den| := by
  by_cases hj : j = roundHalfEven num den
  · rw [hj]
  · exact (abs_roundHalfEven_sub_le num hden).trans (half_le_abs_sub hden hj)

/-- Of two integers that are equally near the even one is chosen. -/
theorem roundHalfEven_even (hj : j ≠ roundHalfEven num den)
    (h : |(roundHalfEven num den : ℚ) - num / den| = |(j : ℚ) - num / den|) :
    roundHalfEven num den % 2 = 0 := by
  have hpos : (0 : ℚ) < den := Nat.cast_pos.2 (Nat.pos_of_ne_zero hden)
  have hhalf : |(roundHalfEven num den : ℚ) - num / den| = 1 / 2 :=
    (abs_roundHalfEven_sub_le num hden).antisymm (h ▸ half_le_abs_sub hden hj)
  apply roundHalfEven_mod_two (Nat.pos_of_ne_zero hden)
  rcases (abs_eq (by norm_num)).1 hhalf with hup | hdown
  · left
    have hcast : 2 * ((roundHalfEven num den : ℚ) * den) = 2 * num + den := by
      rw [sub_eq_iff_eq_add, ← sub_eq_iff_eq_add', eq_div_iff hpos.ne'] at hup
      linarith
    exact_mod_cast hcast
  · right
    have hcast : 2 * (num : ℚ) = 2 * (roundHalfEven num den * den) + den := by
      rw [sub_eq_iff_eq_add, ← sub_eq_iff_eq_add', eq_div_iff hpos.ne'] at hdown
      linarith
    exact_mod_cast hcast

omit hden in
theorem abs_mul_two_zpow_sub (a v : ℚ) (q : Int) :
    |a * 2 ^ q - v| = |a - v / 2 ^ q| * 2 ^ q := by
  have hunit := two_zpow_pos q
  rw [← abs_of_pos hunit, ← abs_mul, abs_of_pos hunit, sub_mul, div_mul_cancel₀ _ hunit.ne']

theorem inUnits_nearest (num : Nat) (q : Int) (j : Nat) :
    |(inUnits num den q : ℚ) * 2 ^ q - num / den| ≤ |(j : ℚ) * 2 ^ q - num / den| := by
  obtain ⟨a, b, hb, hab, hunits⟩ := exists_inUnits_eq num hden q
  rw [abs_mul_two_zpow_sub, abs_mul_two_zpow_sub, hunits, ← hab]
  exact mul_le_mul_of_nonneg_right (roundHalfEven_nearest hb a j) (two_zpow_pos q).le

theorem inUnits_even {q : Int} (hj : j ≠ inUnits num den q)
    (h : |(inUnits num den q : ℚ) * 2 ^ q - num / den| = |(j : ℚ) * 2 ^ q - num / den|) :
    inUnits num den q % 2 = 0 := by
  obtain ⟨a, b, hb, hab, hunits⟩ := exists_inUnits_eq num hden q
  rw [abs_mul_two_zpow_sub, abs_mul_two_zpow_sub, hunits, ← hab] at h
  rw [hunits] at hj ⊢
  exact roundHalfEven_even hb hj (mul_right_cancel₀ (two_zpow_pos q).ne' h)

end

/-! ### The number of a double without a sign -/

def valueOfBits (bits : Nat) : ℚ := (ofFloat (signed false bits)).magnitude

section

variable {bits bits' m place : Nat}

theorem Spells.unique {m' place' : Nat} (hs : Spells bits m place) (hs' : Spells bits m' place') :
    m = m' ∧ place = place' := by
  have hbits := hs.bits_eq
  have hbits' := hs'.bits_eq
  have hlt := hs.lt
  have hlt' := hs'.lt
  have hfull := hs.full
  have hfull' := hs'.full
  omega

theorem Spells.valueOfBits_eq (hs : Spells bits m place) (h : bits < infiniteBits) :
    valueOfBits bits = m * 2 ^ (place + leastExponent) := by
  obtain ⟨m', place', hs', hm⟩ := exists_spells h
  obtain ⟨rfl, rfl⟩ := hs.unique hs'
  rw [valueOfBits, hm]
  rfl

theorem valueOfBits_of_ofFloat {negative negative' : Bool} {q : Int} (h : bits < infiniteBits)
    (hx : ofFloat (signed negative bits) = .finite negative' m q) : valueOfBits bits = m * 2 ^ q := by
  obtain ⟨m', place, -, hm⟩ := exists_spells h
  rw [hm] at hx
  cases hx
  rw [valueOfBits, hm]
  rfl

theorem valueOfBits_nonneg (bits : Nat) : 0 ≤ valueOfBits bits := magnitude_nonneg _

theorem valueOfBits_zero : valueOfBits 0 = 0 := magnitude_signed_zero false

/-- Of two doubles that with the greater bits is greater. -/
theorem valueOfBits_lt (h : bits < bits') (h' : bits' < infiniteBits) :
    valueOfBits bits < valueOfBits bits' := by
  obtain ⟨m, place, hs, -⟩ := exists_spells (h.trans h')
  obtain ⟨m', place', hs', -⟩ := exists_spells h'
  rw [hs.valueOfBits_eq (h.trans h'), hs'.valueOfBits_eq h']
  have hbits := hs.bits_eq
  have hbits' := hs'.bits_eq
  rcases hs.le_or_lt hs' h.le with ⟨rfl, hm⟩ | ⟨hplace, hm⟩
  · have hless : m < m' := by omega
    exact mul_lt_mul_of_pos_right (Nat.cast_lt.2 hless) (two_zpow_pos _)
  · have hless : (m : ℚ) < 2 * m' := by exact_mod_cast hm
    exact (mul_lt_mul_of_pos_right hless (two_zpow_pos _)).trans_le
      (two_mul_mul_two_zpow_le m' hplace)

theorem valueOfBits_le_iff (h : bits < infiniteBits) (h' : bits' < infiniteBits) :
    valueOfBits bits ≤ valueOfBits bits' ↔ bits ≤ bits' := by
  constructor
  · intro hle
    by_contra hless
    exact absurd hle (not_le.2 (valueOfBits_lt (not_le.1 hless) h))
  · intro hle
    rcases hle.lt_or_eq with hlt | rfl
    · exact (valueOfBits_lt hlt h').le
    · exact le_rfl

theorem valueOfBits_inj (h : bits < infiniteBits) (h' : bits' < infiniteBits) :
    valueOfBits bits = valueOfBits bits' ↔ bits = bits' := by
  rw [le_antisymm_iff, valueOfBits_le_iff h h', valueOfBits_le_iff h' h, le_antisymm_iff]

/-- A double is a whole number of units of a place, or it has finer places and is less than the doubles
whose last place this is. -/
theorem exists_units_or_lt (h : bits < infiniteBits) {q : Int} (hq : leastExponent ≤ q) :
    (∃ j : Nat, valueOfBits bits = j * 2 ^ q) ∨
      leastExponent < q ∧ valueOfBits bits < 2 ^ (q + 52) := by
  obtain ⟨m, place, hs, -⟩ := exists_spells h
  rw [hs.valueOfBits_eq h]
  rcases le_or_gt q (place + leastExponent) with hle | hlt
  · refine .inl ⟨m * 2 ^ (place + leastExponent - q).toNat, ?_⟩
    push_cast
    rw [← zpow_natCast, Int.toNat_of_nonneg (by omega), mul_assoc, ← zpow_add₀ (by norm_num),
      sub_add_cancel]
  · refine .inr ⟨by omega, ?_⟩
    calc (m : ℚ) * 2 ^ (place + leastExponent) < 2 ^ 53 * 2 ^ (place + leastExponent) :=
          mul_lt_mul_of_pos_right (by exact_mod_cast hs.lt) (two_zpow_pos _)
      _ = 2 ^ ((53 : Nat) + (place + leastExponent)) := by
          rw [zpow_add₀ (by norm_num) ((53 : Nat) : Int), zpow_natCast]
      _ ≤ 2 ^ (q + 52) := zpow_le_zpow_right₀ (by norm_num) (by omega)

end

/-! ### What a ratio is rounded to -/

/-- No finite double without a sign is nearer to the number than that of the bits, and if another one is
as near, the bits are even. -/
structure IsRoundedTo (v : ℚ) (bits : Nat) : Prop where
  nearest : ∀ bits' < infiniteBits, |valueOfBits bits - v| ≤ |valueOfBits bits' - v|
  even : ∀ bits' < infiniteBits, |valueOfBits bits - v| = |valueOfBits bits' - v| →
    bits' = bits ∨ bits % 2 = 0

section

variable {num den : Nat} (hden : den ≠ 0)
include hden

/-- Units of the last place of a ratio, rounded, are compared with whole units and with less than all
that have this last place. -/
theorem inUnits_lastPlace_nearest (hnum : num ≠ 0) {q : Int} (hq : lastPlace num den = q) {w : ℚ}
    (hw : (∃ j : Nat, w = j * 2 ^ q) ∨ leastExponent < q ∧ w < 2 ^ (q + 52)) :
    |(inUnits num den q : ℚ) * 2 ^ q - num / den| ≤ |w - num / den| ∧
      (|(inUnits num den q : ℚ) * 2 ^ q - num / den| = |w - num / den| →
        w = inUnits num den q * 2 ^ q ∨ inUnits num den q % 2 = 0) := by
  rcases hw with ⟨j, rfl⟩ | ⟨hfine, hless⟩
  · refine ⟨inUnits_nearest hden num q j, fun htie => ?_⟩
    by_cases hne : j = inUnits num den q
    · exact .inl (by rw [hne])
    · exact .inr (inUnits_even hden hne htie)
  · -- the power of two where these places begin lies between the two
    have hplace : q + 52 = highestPlace num den := by
      unfold lastPlace at hq
      omega
    have hpower : (2 : ℚ) ^ (q + 52) ≤ num / den := hplace ▸ (highestPlace_mem hnum hden).1
    have hunits : ((2 ^ 52 : Nat) : ℚ) * 2 ^ q = 2 ^ (q + 52) := by
      rw [show q + 52 = (52 : Nat) + q by ring, zpow_add₀ (by norm_num), zpow_natCast]
      push_cast
      rfl
    have hnear := inUnits_nearest hden num q (2 ^ 52)
    rw [hunits, abs_sub_comm ((2 : ℚ) ^ _), abs_of_nonneg (sub_nonneg.2 hpower)] at hnear
    have hfar : |w - (num : ℚ) / den| = num / den - w := by
      rw [abs_sub_comm, abs_of_nonneg (by linarith)]
    rw [hfar]
    exact ⟨by linarith, fun htie => by linarith⟩

theorem isRoundedTo_nearestBits (hfinite : nearestBits num den < infiniteBits) :
    IsRoundedTo (num / den) (nearestBits num den) := by
  by_cases hnum : num = 0
  · have hzero : nearestBits num den = 0 := by rw [nearestBits, if_pos hnum]
    rw [hzero, hnum, Nat.cast_zero, zero_div]
    refine ⟨fun bits _ => ?_, fun _ _ _ => .inr rfl⟩
    rw [valueOfBits_zero, sub_zero, abs_zero]
    exact abs_nonneg _
  · obtain ⟨q, hq⟩ : ∃ q, lastPlace num den = q := ⟨_, rfl⟩
    have hleast : leastExponent ≤ q := hq ▸ le_max_right _ _
    have hbits : nearestBits num den = inUnits num den q + (q - leastExponent).toNat * twoPow 52 := by
      rw [nearestBits, if_neg hnum, hq] at hfinite ⊢
      exact min_eq_left ((min_lt_iff.1 hfinite).resolve_right (lt_irrefl _)).le
    have hvalue : valueOfBits (nearestBits num den) = inUnits num den q * 2 ^ q := by
      rw [hbits] at hfinite ⊢
      exact magnitude_signed (hq ▸ inUnits_lastPlace_le hnum hden) hleast
        (fun hless => hq ▸ lastPlace_eq_of_inUnits_lt hnum hden (hq ▸ hless)) hfinite
    have hparity : nearestBits num den % 2 = inUnits num den q % 2 := by
      rw [hbits, twoPow_eq]
      omega
    constructor
    · intro bits h
      rw [hvalue]
      exact (inUnits_lastPlace_nearest hden hnum hq (exists_units_or_lt h hleast)).1
    · intro bits h htie
      rw [hvalue] at htie
      rw [hparity]
      refine ((inUnits_lastPlace_nearest hden hnum hq (exists_units_or_lt h hleast)).2 htie).imp_left
        (fun heq => ?_)
      rwa [← hvalue, valueOfBits_inj h hfinite] at heq

end

/-- A number is nearer to the middle of an interval than to its end. -/
theorem abs_sub_lt_of_between {a b c v : ℚ} (hab : a < b) (hbc : b < c) (h : |a - v| = |c - v|) :
    |b - v| < |a - v| := by
  have hmiddle : c - v = -(a - v) := by
    rcases abs_eq_abs.1 h with heq | heq
    · linarith
    · linarith
  rw [abs_lt, abs_of_neg (by linarith)]
  constructor <;> linarith

/-- Both doubles would be even and equally far away, and one between them would be nearer. -/
theorem IsRoundedTo.le {v : ℚ} {bits bits' : Nat} (hv : IsRoundedTo v bits) (hv' : IsRoundedTo v bits')
    (h : bits < infiniteBits) (h' : bits' < infiniteBits) : bits' ≤ bits := by
  by_contra hless
  have htie : |valueOfBits bits - v| = |valueOfBits bits' - v| :=
    (hv.nearest bits' h').antisymm (hv'.nearest bits h)
  have heven := (hv.even bits' h' htie).resolve_left (by omega)
  have heven' := (hv'.even bits h htie.symm).resolve_left (by omega)
  have hbetween : bits + 1 < bits' := by omega
  have hnearer := abs_sub_lt_of_between (valueOfBits_lt (Nat.lt_succ_self bits) (hbetween.trans h'))
    (valueOfBits_lt hbetween h') htie
  exact absurd (hv.nearest (bits + 1) (hbetween.trans h')) (not_le.2 hnearer)

theorem IsRoundedTo.unique {v : ℚ} {bits bits' : Nat} (hv : IsRoundedTo v bits)
    (hv' : IsRoundedTo v bits') (h : bits < infiniteBits) (h' : bits' < infiniteBits) : bits = bits' :=
  (hv'.le hv h' h).antisymm (hv.le hv' h h')

/-- A ratio is rounded to a finite double if it is not too large, and to the nearest one. -/
theorem nearestBits_eq_iff {num den bits : Nat} (hden : den ≠ 0) (h : bits < infiniteBits) :
    nearestBits num den = bits ↔ (num : ℚ) / den < leastTooLarge ∧ IsRoundedTo (num / den) bits := by
  rw [← nearestBits_lt_infiniteBits_iff hden]
  constructor
  · rintro rfl
    exact ⟨h, isRoundedTo_nearestBits hden h⟩
  · rintro ⟨hfinite, hv⟩
    exact (isRoundedTo_nearestBits hden hfinite).unique hv hfinite h

/-! ### Signs -/

def toRat : Binary → ℚ
  | finite negative m q => (if negative then -(m : ℚ) else m) * 2 ^ q
  | _ => 0

def isNegative : Binary → Bool
  | finite negative .. => negative
  | infinite negative => negative
  | nan => false

def significand : Binary → Nat
  | finite _ m _ => m
  | _ => 0

def signedValue (negative : Bool) (bits : Nat) : ℚ :=
  if negative then -valueOfBits bits else valueOfBits bits

theorem signedValue_zero (negative : Bool) : signedValue negative 0 = 0 := by
  unfold signedValue
  rw [valueOfBits_zero, neg_zero, ite_self]

theorem signedValue_inj {negative : Bool} {bits bits' : Nat} :
    signedValue negative bits = signedValue negative bits' ↔ valueOfBits bits = valueOfBits bits' := by
  unfold signedValue
  cases negative
  · exact Iff.rfl
  · exact neg_inj

theorem exists_eq_signed_of_isFinite {x : Float} (h : x.isFinite = true) :
    ∃ negative bits, bits < infiniteBits ∧ x = signed negative bits := by
  obtain ⟨negative, m, q, hx⟩ := exists_ofFloat_eq_finite h
  obtain ⟨bits, -, -, -, hbits, heq⟩ := exists_eq_signed hx
  exact ⟨negative, bits, hbits, heq⟩

section

variable {bits bits' : Nat} (h : bits < infiniteBits) (h' : bits' < infiniteBits)
  (negative negative' : Bool)

include h in
theorem toRat_signed : (ofFloat (signed negative bits)).toRat = signedValue negative bits := by
  obtain ⟨m, place, hs, hm⟩ := exists_spells h
  rw [hm, signedValue, hs.valueOfBits_eq h]
  unfold toRat
  cases negative
  · rfl
  · exact neg_mul _ _

include h in
theorem isNegative_signed : (ofFloat (signed negative bits)).isNegative = negative := by
  obtain ⟨m, place, -, hm⟩ := exists_spells h
  rw [hm]
  rfl

include h in
theorem significand_signed_mod_two : (ofFloat (signed negative bits)).significand % 2 = bits % 2 := by
  obtain ⟨m, place, hs, hm⟩ := exists_spells h
  have hbits := hs.bits_eq
  rw [hm]
  show m % 2 = bits % 2
  omega

include h in
theorem valueOfBits_pos (hne : bits ≠ 0) : 0 < valueOfBits bits :=
  valueOfBits_zero ▸ valueOfBits_lt (Nat.pos_of_ne_zero hne) h

include h h' in
theorem compare_valueOfBits : compare (valueOfBits bits) (valueOfBits bits') = compare bits bits' := by
  rcases lt_trichotomy bits bits' with hlt | rfl | hgt
  · rw [compare_lt_iff_lt.2 hlt, compare_lt_iff_lt.2 (valueOfBits_lt hlt h')]
  · rw [compare_eq_iff_eq.2 rfl, compare_eq_iff_eq.2 rfl]
  · rw [compare_gt_iff_gt.2 hgt, compare_gt_iff_gt.2 (valueOfBits_lt hgt h)]

include h h' in
theorem compare_neg_valueOfBits :
    compare (-valueOfBits bits) (-valueOfBits bits') = (compare bits bits').swap := by
  rcases lt_trichotomy bits bits' with hlt | rfl | hgt
  · rw [compare_lt_iff_lt.2 hlt, compare_gt_iff_gt.2 (neg_lt_neg (valueOfBits_lt hlt h'))]
    rfl
  · rw [compare_eq_iff_eq.2 rfl, compare_eq_iff_eq.2 rfl]
    rfl
  · rw [compare_gt_iff_gt.2 hgt, compare_lt_iff_lt.2 (neg_lt_neg (valueOfBits_lt hgt h))]
    rfl

theorem compare_unpacked_true (m m' : Nat) (q q' : Int) :
    (unpacked true m q).compare (unpacked true m' q') =
      ((unpacked false m q).compare (unpacked false m' q')).map Ordering.swap := by
  unfold unpacked
  split <;> split <;> rfl

/-- Of doubles with different signs the one without is greater, unless both are zeros. -/
theorem compare_unpacked_of_ne (m m' : Nat) (q q' : Int) :
    (unpacked false m q).compare (unpacked true m' q') =
        some (if m = 0 ∧ m' = 0 then .eq else .gt) ∧
      (unpacked true m q).compare (unpacked false m' q') =
        some (if m = 0 ∧ m' = 0 then .eq else .lt) := by
  unfold unpacked
  by_cases hm : m = 0 <;> by_cases hm' : m' = 0 <;> simp [hm, hm', signOf] <;> exact ⟨rfl, rfl⟩

include h h' in
theorem neg_valueOfBits_lt (hne : ¬ (bits = 0 ∧ bits' = 0)) :
    -valueOfBits bits < valueOfBits bits' := by
  have hnonneg := valueOfBits_nonneg bits
  have hnonneg' := valueOfBits_nonneg bits'
  by_cases hbits : bits = 0
  · have hpos' := valueOfBits_pos h' (fun hbits' => hne ⟨hbits, hbits'⟩)
    linarith
  · have hpos := valueOfBits_pos h hbits
    linarith

include h h' in
/-- Doubles with different signs are equal when they are zeros. -/
theorem bits_eq_zero_of_signedValue {s s' : Bool} (hne : s' ≠ s)
    (heq : signedValue s bits = signedValue s' bits') : bits = 0 ∧ bits' = 0 := by
  by_contra hboth
  have hboth' : ¬ (bits' = 0 ∧ bits = 0) := fun hzeros => hboth hzeros.symm
  unfold signedValue at heq
  cases s with
  | false =>
      obtain rfl : s' = true := by simpa using hne
      exact absurd heq (neg_valueOfBits_lt h' h hboth').ne'
  | true =>
      obtain rfl : s' = false := by simpa using hne
      exact absurd heq (neg_valueOfBits_lt h h' hboth).ne

include h h' in
/-- Finite doubles are compared as the numbers that they are. -/
theorem compare_signed_eq : (signed negative bits).toModel.unpack.compare
    (signed negative' bits').toModel.unpack =
      some (compare (signedValue negative bits) (signedValue negative' bits')) := by
  obtain ⟨m, place, hs, hm⟩ := exists_spells h
  obtain ⟨m', place', hs', hm'⟩ := exists_spells h'
  rw [unpack_of_ofFloat (hm negative), unpack_of_ofFloat (hm' negative')]
  obtain ⟨hright, hleft⟩ :=
    compare_unpacked_of_ne m m' (place + leastExponent) (place' + leastExponent)
  have hzeros : m = 0 ∧ m' = 0 ↔ bits = 0 ∧ bits' = 0 := by
    rw [hs.bits_eq_zero_iff, hs'.bits_eq_zero_iff]
  cases negative <;> cases negative'
  · rw [compare_unpacked hs hs', ← compare_valueOfBits h h']
    rfl
  · rw [hright]
    split
    · rename_i hboth
      rw [(hzeros.1 hboth).1, (hzeros.1 hboth).2, signedValue_zero, signedValue_zero]
      rfl
    · rename_i hne
      exact congrArg some (compare_gt_iff_gt.2
        (neg_valueOfBits_lt h' h (fun hboth => hne (hzeros.2 hboth.symm)))).symm
  · rw [hleft]
    split
    · rename_i hboth
      rw [(hzeros.1 hboth).1, (hzeros.1 hboth).2, signedValue_zero, signedValue_zero]
      rfl
    · rename_i hne
      exact congrArg some (compare_lt_iff_lt.2
        (neg_valueOfBits_lt h h' (fun hboth => hne (hzeros.2 hboth)))).symm
  · rw [compare_unpacked_true, compare_unpacked hs hs', Option.map_some,
      ← compare_neg_valueOfBits h h']
    rfl

end

theorem le_iff_toRat_le {x y : Float} (hx : x.isFinite = true) (hy : y.isFinite = true) :
    x ≤ y ↔ (ofFloat x).toRat ≤ (ofFloat y).toRat := by
  obtain ⟨negative, bits, h, rfl⟩ := exists_eq_signed_of_isFinite hx
  obtain ⟨negative', bits', h', rfl⟩ := exists_eq_signed_of_isFinite hy
  rw [float_le_iff, compare_signed_eq h h', toRat_signed h, toRat_signed h', Option.any_some,
    Ordering.isLE_iff_ne_gt]
  exact compare_le_iff_le

end Appraisal.Binary
