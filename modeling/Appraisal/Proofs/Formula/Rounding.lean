import Appraisal.Formula.Library
import Appraisal.Number.Round
import Appraisal.Proofs.Decimal.Shortest
import Appraisal.Proofs.Formula.Call

/-!
# Rounding to integers is exact

The functions of the library that round a double to an integer find that integer among the decimals or
the integers, and make a double of it. Neither step loses anything. A double with a binary place after
the point is less than `2 ^ 52`, so that the integers next to it have at most fifty-three binary digits;
any other double is an integer itself. The integers less than one away from a double are therefore
doubles, and nothing more is asked of what the functions find.
-/

namespace Appraisal

open Binary

namespace Binary

/-! ### Integers next to a double -/

section

variable {x : Float} {negative : Bool} {m bits : Nat} {q : Int}

theorem toRat_finite (negative : Bool) (m : Nat) (q : Int) :
    (finite negative m q).toRat = if negative then -((m : ℚ) * 2 ^ q) else m * 2 ^ q := by
  unfold toRat
  cases negative
  · rfl
  · exact neg_mul _ _

theorem abs_toRat_finite (negative : Bool) (m : Nat) (q : Int) :
    |(finite negative m q).toRat| = m * 2 ^ q := by
  have hnonneg : (0 : ℚ) ≤ m * 2 ^ q := mul_nonneg (Nat.cast_nonneg m) (two_zpow_pos q).le
  rw [toRat_finite]
  cases negative
  · exact abs_of_nonneg hnonneg
  · exact (abs_neg _).trans (abs_of_nonneg hnonneg)

/-- With a place after the point the integer below is less than `2 ^ 52`; without one the double is the
only integer so near to it. -/
theorem exists_valueOfBits_eq {n : Nat} (hx : ofFloat x = .finite negative m q)
    (hnear : |(n : ℚ) - m * 2 ^ q| < 1) : ∃ bits < infiniteBits, valueOfBits bits = n := by
  by_cases hq : 0 ≤ q
  · have hwhole : (m : ℚ) * 2 ^ q = (m * twoPow q.toNat : Nat) := by
      rw [Nat.cast_mul, cast_twoPow_toNat hq]
    obtain ⟨bits, -, -, -, hbits, rfl⟩ := exists_eq_signed hx
    rw [hwhole] at hnear
    refine ⟨bits, hbits, ?_⟩
    rw [valueOfBits_of_ofFloat hbits hx, hwhole, eq_of_abs_sub_lt_one hnear]
  · have hm : (m : ℚ) < 2 ^ 53 := by exact_mod_cast (mem_of_ofFloat hx).1
    have hhalf : (2 : ℚ) ^ q ≤ 1 / 2 := by
      calc (2 : ℚ) ^ q ≤ 2 ^ (-1 : Int) := zpow_le_zpow_right₀ (by norm_num) (by omega)
        _ = 1 / 2 := by norm_num
    have hlow : (m : ℚ) * 2 ^ q ≤ 2 ^ 53 * (1 / 2) :=
      mul_le_mul hm.le hhalf (two_zpow_pos q).le (by norm_num)
    have hn : (n : ℚ) < 2 ^ 53 := by linarith [(abs_lt.1 hnear).2]
    have hratio : (n : ℚ) / (1 : Nat) = n * 2 ^ (0 : Int) := by
      rw [Nat.cast_one, div_one, zpow_zero, mul_one]
    have hexact := magnitude_nearest_of_exact false one_ne_zero (by decide) le_rfl
      (by exact_mod_cast hn) hratio
    rw [zpow_zero, mul_one] at hexact
    exact ⟨nearestBits n 1, hexact⟩

/-- The magnitude of an integer less than one away from a double is the magnitude of a double. -/
theorem exists_valueOfBits_eq_abs (hx : x.isFinite = true) {n : Int}
    (hnear : |(n : ℚ) - (ofFloat x).toRat| < 1) :
    ∃ bits < infiniteBits, valueOfBits bits = |(n : ℚ)| := by
  obtain ⟨negative, m, q, hm⟩ := exists_ofFloat_eq_finite hx
  rw [← Int.cast_abs, ← Nat.cast_natAbs]
  refine exists_valueOfBits_eq hm ?_
  rw [Nat.cast_natAbs, Int.cast_abs, ← abs_toRat_finite negative m q, ← hm]
  exact (abs_abs_sub_abs_le_abs_sub _ _).trans_lt hnear

theorem valueOfBits_lt_leastTooLarge (h : bits < infiniteBits) :
    valueOfBits bits < leastTooLarge := by
  obtain ⟨m, place, -, hm⟩ := exists_spells h
  rw [valueOfBits_of_ofFloat h (hm false)]
  exact magnitude_lt_leastTooLarge (hm false)

theorem isRoundedTo_valueOfBits (h : bits < infiniteBits) : IsRoundedTo (valueOfBits bits) bits where
  nearest bits' _ := by
    rw [sub_self, abs_zero]
    exact abs_nonneg _
  even bits' h' htie := by
    rw [sub_self, abs_zero, eq_comm, abs_eq_zero, sub_eq_zero] at htie
    exact .inl ((valueOfBits_inj h' h).1 htie)

/-- The double that an integer becomes where a double has its magnitude. -/
theorem exists_floatOfInt? {n : Int} (h : bits < infiniteBits) (hn : valueOfBits bits = |(n : ℚ)|) :
    ∃ r, floatOfInt? n = some r ∧ r.isFinite = true ∧ (ofFloat r).toRat = n := by
  have hratio : (n.natAbs : ℚ) / (1 : Nat) = valueOfBits bits := by
    rw [Nat.cast_one, div_one, Nat.cast_natAbs, Int.cast_abs, hn]
  have hbits : nearestBits n.natAbs 1 = bits := by
    rw [nearestBits_eq_iff one_ne_zero h, hratio]
    exact ⟨valueOfBits_lt_leastTooLarge h, isRoundedTo_valueOfBits h⟩
  refine ⟨signed (n < 0) bits, ?_, (isFinite_signed_iff h.le).2 h.ne, ?_⟩
  · unfold floatOfInt?
    simp only [hbits]
    exact if_neg h.ne
  · rw [toRat_signed h, signedValue, hn]
    by_cases hneg : n < 0
    · rw [if_pos (decide_eq_true hneg), abs_of_neg (Int.cast_lt_zero.2 hneg), neg_neg]
    · rw [if_neg (by simpa using hneg), abs_of_nonneg (Int.cast_nonneg (Int.not_lt.1 hneg))]

end

/-! ### Integral parts -/

theorem split_fst_le (m : Nat) (q : Int) : ((split m q).1 : ℚ) ≤ m * 2 ^ q := by
  rw [split_fst]
  exact Nat.floor_le (mul_nonneg (Nat.cast_nonneg m) (two_zpow_pos q).le)

theorem lt_split_fst_add_one (m : Nat) (q : Int) : (m : ℚ) * 2 ^ q < (split m q).1 + 1 := by
  rw [split_fst]
  exact Nat.lt_floor_add_one _

/-- Nothing is left exactly of the whole numbers. -/
theorem split_rest_eq_zero_iff (m : Nat) (q : Int) :
    (split m q).2.1 = 0 ↔ ((split m q).1 : ℚ) = m * 2 ^ q := by
  unfold split
  by_cases hq : 0 ≤ q
  · rw [if_pos hq, ← cast_twoPow_toNat hq]
    exact iff_of_true rfl (Nat.cast_mul _ _)
  · have hunit : (2 : ℚ) ^ q = ((twoPow (-q).toNat : Nat) : ℚ)⁻¹ := by
      rw [cast_twoPow_toNat (by omega), zpow_neg, inv_inv]
    have hpos : (twoPow (-q).toNat : ℚ) ≠ 0 := Nat.cast_ne_zero.2 (twoPow_pos _).ne'
    rw [if_neg hq, hunit, ← div_eq_mul_inv, eq_div_iff hpos, ← Nat.cast_mul, Nat.cast_inj,
      ← Nat.dvd_iff_mod_eq_zero, Nat.dvd_iff_div_mul_eq]

theorem floorOf_eq_floor (negative : Bool) (m : Nat) (q : Int) :
    floorOf negative m q = ⌊(finite negative m q).toRat⌋ := by
  have hlow := split_fst_le m q
  have hhigh := lt_split_fst_add_one m q
  have hrest := split_rest_eq_zero_iff m q
  rw [eq_comm, Int.floor_eq_iff, toRat_finite]
  unfold floorOf withSign
  generalize split m q = parts at hlow hhigh hrest ⊢
  obtain ⟨whole, rest, unit⟩ := parts
  dsimp only at hlow hhigh hrest ⊢
  cases negative with
  | false => exact ⟨by exact_mod_cast hlow, by exact_mod_cast hhigh⟩
  | true =>
      rw [Bool.true_and, if_pos rfl, if_pos rfl]
      by_cases hr : rest = 0
      · -- an integer is its own floor
        rw [if_neg (by simpa using hr), ← hrest.1 hr]
        push_cast
        exact ⟨le_rfl, lt_add_one _⟩
      · have hlt := hlow.lt_of_ne (fun heq => hr (hrest.2 heq))
        rw [if_pos (by simpa using hr)]
        push_cast
        constructor <;> linarith

theorem toRat_not (negative : Bool) (m : Nat) (q : Int) :
    (finite (!negative) m q).toRat = -(finite negative m q).toRat := by
  rw [toRat_finite, toRat_finite]
  cases negative
  · rfl
  · exact (neg_neg _).symm

theorem ceilOf_eq_ceil (negative : Bool) (m : Nat) (q : Int) :
    ceilOf negative m q = ⌈(finite negative m q).toRat⌉ := by
  rw [ceilOf, floorOf_eq_floor, toRat_not, Int.floor_neg, neg_neg]

end Binary

section

variable {x : Float} (hx : x.isFinite = true)

include hx

theorem floorInt_eq : floorInt x = .ok ⌊(ofFloat x).toRat⌋ := by
  obtain ⟨negative, m, q, hm⟩ := exists_ofFloat_eq_finite hx
  unfold floorInt integral
  rw [hm]
  exact congrArg Except.ok (floorOf_eq_floor negative m q)

theorem ceilInt_eq : ceilInt x = .ok ⌈(ofFloat x).toRat⌉ := by
  obtain ⟨negative, m, q, hm⟩ := exists_ofFloat_eq_finite hx
  unfold ceilInt integral
  rw [hm]
  exact congrArg Except.ok (ceilOf_eq_ceil negative m q)

end

/-! ### Decimals -/

def halfAway (v : ℚ) : Int := SignType.sign v * ⌊|v| + 1 / 2⌋

theorem halfAway_neg (v : ℚ) : halfAway (-v) = -halfAway v := by
  unfold halfAway
  rw [Left.sign_neg, abs_neg, SignType.coe_neg, neg_mul]

/-- The sign is needed for the numbers that are not zero only, since a half is rounded down to zero. -/
theorem halfAway_of_nonneg {v : ℚ} (h : 0 ≤ v) : halfAway v = ⌊v + 1 / 2⌋ := by
  unfold halfAway
  rw [abs_of_nonneg h]
  rcases h.lt_or_eq with hpos | rfl
  · rw [sign_pos hpos]
    exact one_mul _
  · rw [sign_zero]
    norm_num

theorem abs_halfAway_sub_le (v : ℚ) : |(halfAway v : ℚ) - v| ≤ 1 / 2 := by
  have hnonneg {u : ℚ} (hu : 0 ≤ u) : |(halfAway u : ℚ) - u| ≤ 1 / 2 := by
    rw [halfAway_of_nonneg hu, abs_le]
    have hlow := Int.floor_le (u + 1 / 2)
    have hhigh := Int.lt_floor_add_one (u + 1 / 2)
    constructor <;> linarith
  rcases le_total 0 v with hv | hv
  · exact hnonneg hv
  · have hneg := hnonneg (neg_nonneg.2 hv)
    rwa [halfAway_neg, Int.cast_neg, ← neg_sub', abs_neg] at hneg

theorem halfAway_natCast (n : Nat) : halfAway n = n := by
  rw [halfAway_of_nonneg (Nat.cast_nonneg n), Int.floor_eq_iff]
  push_cast
  constructor <;> linarith

namespace Decimal

/-- The whole decimal has the sign of the decimal, and its magnitude comes from the magnitude. -/
theorem exists_toIntegral_eq (c : Nat) (e : Int) :
    ∃ c' e', (∀ s, (finite s c e).toIntegral = finite s c' e') ∧
      number false c' e' = halfAway (number false c e) := by
  by_cases he : 0 ≤ e
  · refine ⟨c, e, fun s => if_pos he, ?_⟩
    have hwhole : number false c e = (c * 10 ^ e.toNat : Nat) := by
      conv_lhs => rw [← Int.toNat_of_nonneg he]
      rw [number, zpow_natCast]
      push_cast
      rfl
    rw [hwhole, halfAway_natCast]
    rfl
  · refine ⟨_, 0, fun s => if_neg he, ?_⟩
    have hunit : ((tenPow (-e).toNat : Nat) : ℚ) = (10 ^ e)⁻¹ := by
      rw [tenPow_eq, Nat.cast_pow, Nat.cast_ofNat, ← zpow_natCast, ← zpow_neg]
      exact congrArg _ (by omega)
    have hpos := ten_zpow_pos e
    have hratio : number false c e + 1 / 2 =
        (2 * c + tenPow (-e).toNat : Nat) / (2 * tenPow (-e).toNat : Nat) := by
      push_cast
      rw [hunit, number, if_neg Bool.false_ne_true]
      field_simp
    have hnonneg : 0 ≤ number false c e := mul_nonneg (Nat.cast_nonneg c) hpos.le
    rw [halfAway_of_nonneg hnonneg, hratio, Rat.floor_natCast_div_natCast, number, zpow_zero, mul_one]
    rfl

/-- A whole decimal is found exactly, however many digits it takes. -/
theorem HasValue.toIntegral {d : Decimal} {v : ℚ} (h : d.HasValue v) :
    d.toIntegral.HasValue (halfAway v) := by
  obtain ⟨s, c, e, rfl, rfl⟩ := h.exists_finite
  obtain ⟨c', e', hintegral, hvalue⟩ := exists_toIntegral_eq c e
  rw [hintegral]
  refine ⟨rfl, ?_⟩
  cases s with
  | false => exact hvalue
  | true =>
      rw [toRat, number_true, number_true, halfAway_neg, Int.cast_neg, hvalue]

/-- A binary place is a decimal place with a factor of five. -/
theorem mul_five_pow_mul_ten_zpow (m : Nat) {q : Int} (hq : q ≤ 0) :
    ((m * Nat.pow 5 (-q).toNat : Nat) : ℚ) * 10 ^ q = m * 2 ^ q := by
  have hfive : ((Nat.pow 5 (-q).toNat : Nat) : ℚ) = (5 ^ q)⁻¹ := by
    rw [Nat.pow_eq, Nat.cast_pow, Nat.cast_ofNat, ← zpow_natCast, ← zpow_neg]
    exact congrArg _ (Int.toNat_of_nonneg (by omega))
  have hpos : (5 : ℚ) ^ q ≠ 0 := zpow_ne_zero q (by norm_num)
  rw [Nat.cast_mul, hfive, show (10 : ℚ) = 5 * 2 by norm_num, mul_zpow, mul_assoc,
    inv_mul_cancel_left₀ hpos]

/-- The decimal that a double is has its sign and its value. -/
theorem hasValue_ofDouble {x : Float} (hx : x.isFinite = true) :
    (ofDouble x).isNegative = (Binary.ofFloat x).isNegative ∧
      (ofDouble x).HasValue (Binary.ofFloat x).toRat := by
  obtain ⟨negative, m, q, hm⟩ := exists_ofFloat_eq_finite hx
  unfold ofDouble
  rw [hm, toRat_finite]
  dsimp only
  by_cases hq : 0 ≤ q
  · rw [if_pos hq]
    refine ⟨rfl, rfl, ?_⟩
    rw [toRat, number, zpow_zero, mul_one, Nat.cast_mul, cast_twoPow_toNat hq]
  · rw [if_neg hq]
    refine ⟨rfl, rfl, ?_⟩
    rw [toRat, number, ← mul_five_pow_mul_ten_zpow m (by omega)]
    cases negative
    · rfl
    · exact neg_mul _ _

/-- A decimal with the sign and the value of a double becomes this double. -/
theorem toFloat?_of_hasValue {d : Decimal} {y : Float} (hy : y.isFinite = true)
    (hd : d.HasValue (Binary.ofFloat y).toRat) (hsign : d.isNegative = (Binary.ofFloat y).isNegative) :
    d.toFloat? = some y := by
  rw [toFloat?_eq_some_iff hd.1 hy]
  have hexact : |(Binary.ofFloat y).toRat - d.toRat| = 0 := by rw [hd.2, sub_self, abs_zero]
  refine ⟨⟨hd.1, hy⟩, ?_, hsign.symm, ?_, ?_⟩
  · obtain ⟨negative, m, q, hm⟩ := exists_ofFloat_eq_finite hy
    rw [hd.2, hm, abs_toRat_finite]
    exact magnitude_lt_leastTooLarge hm
  · intro z _
    rw [hexact]
    exact abs_nonneg _
  · intro z _ htie
    rw [hexact, hd.2, eq_comm, abs_eq_zero, sub_eq_zero] at htie
    exact .inl htie

/-- The double that a decimal becomes where a double has its magnitude. -/
theorem HasValue.exists_toFloat? {d : Decimal} {v : ℚ} {bits : Nat} (hd : d.HasValue v)
    (h : bits < infiniteBits) (hv : valueOfBits bits = |v|) :
    ∃ r, d.toFloat? = some r ∧ r.isFinite = true ∧ (Binary.ofFloat r).toRat = v := by
  obtain ⟨s, c, e, rfl, rfl⟩ := hd.exists_finite
  have hfinite : (signed s bits).isFinite = true := (isFinite_signed_iff h.le).2 h.ne
  have hvalue : (Binary.ofFloat (signed s bits)).toRat = number s c e := by
    rw [toRat_signed h, signedValue, hv, abs_number]
    cases s
    · rfl
    · exact (neg_mul _ _).symm
  exact ⟨signed s bits, toFloat?_of_hasValue hfinite ⟨rfl, hvalue.symm⟩ (isNegative_signed h s).symm,
    hfinite, hvalue⟩

end Decimal

/-! ### Calls -/

namespace Formula.Library

/-- A call of a function of the library with a double ends with a finite double that is this integer. -/
def Gives (name : String) (x : Float) (n : Int) : Prop :=
  ∃ f r, registry.find? name = some f ∧ (∀ formula, f.invoke [.double x] formula = .ok (.double r)) ∧
    r.isFinite = true ∧ (ofFloat r).toRat = n

/-- What the conversions between doubles, decimals and integers keep of a double and of the integers
next to it. -/
structure IsLossless (x : Float) : Prop where
  ofDouble : (Decimal.ofDouble x).HasValue (ofFloat x).toRat
  toFloat_ofDouble : (Decimal.ofDouble x).toFloat? = some x
  toIntegral : (Decimal.ofDouble x).toIntegral.HasValue (halfAway (ofFloat x).toRat)
  toFloat_toIntegral : ∃ r, (Decimal.ofDouble x).toIntegral.toFloat? = some r ∧ r.isFinite = true ∧
    (ofFloat r).toRat = halfAway (ofFloat x).toRat
  floorInt : floorInt x = .ok ⌊(ofFloat x).toRat⌋
  ceilInt : ceilInt x = .ok ⌈(ofFloat x).toRat⌉
  floatOfInt : ∀ n : Int, |(n : ℚ) - (ofFloat x).toRat| < 1 →
    ∃ r, floatOfInt? n = some r ∧ r.isFinite = true ∧ (ofFloat r).toRat = n

section

variable {x r : Float}

/-- A function of one number is called with it. -/
theorem invoke_unary {name : String} {names : List String} {g : Quantity → Except Fault Quantity}
    {doc sample : Text} {isName : Text.isName name.toList = true}
    {suitable : (unary names g).objection? [Kind.number].length = none}
    (hg : g (.double x) = .ok (.double r)) (hr : r.isFinite = true) (formula : Text) :
    (function name [.number] .number (unary names g) doc sample isName suitable).invoke [.double x]
      formula = .ok (.double r) := by
  refine Function.invoke_eq_ok_of_run rfl rfl rfl ?_ hr
  show (g (.double x)).map Datum.ofQuantity = .ok (.double r)
  rw [hg]
  rfl

variable (hx : x.isFinite = true)

include hx

/-- What a double is rounded to is a double. -/
theorem exists_toFloat?_toIntegral :
    ∃ r, (Decimal.ofDouble x).toIntegral.toFloat? = some r ∧ r.isFinite = true ∧
      (ofFloat r).toRat = halfAway (ofFloat x).toRat := by
  have hnear := (abs_halfAway_sub_le (ofFloat x).toRat).trans_lt one_half_lt_one
  obtain ⟨bits, hbits, hvalue⟩ := exists_valueOfBits_eq_abs hx hnear
  exact (Decimal.hasValue_ofDouble hx).2.toIntegral.exists_toFloat? hbits hvalue

/-- The integers next to a double are doubles. -/
theorem exists_floatOfInt?_of_near {n : Int} (hnear : |(n : ℚ) - (ofFloat x).toRat| < 1) :
    ∃ r, floatOfInt? n = some r ∧ r.isFinite = true ∧ (ofFloat r).toRat = n := by
  obtain ⟨bits, hbits, hvalue⟩ := exists_valueOfBits_eq_abs hx hnear
  exact exists_floatOfInt? hbits hvalue

theorem isLossless : IsLossless x where
  ofDouble := (Decimal.hasValue_ofDouble hx).2
  toFloat_ofDouble := Decimal.toFloat?_of_hasValue hx (Decimal.hasValue_ofDouble hx).2
    (Decimal.hasValue_ofDouble hx).1
  toIntegral := (Decimal.hasValue_ofDouble hx).2.toIntegral
  toFloat_toIntegral := exists_toFloat?_toIntegral hx
  floorInt := floorInt_eq hx
  ceilInt := ceilInt_eq hx
  floatOfInt _ hnear := exists_floatOfInt?_of_near hx hnear

theorem gives_round : Gives "round" x (halfAway (ofFloat x).toRat) := by
  obtain ⟨r, hr, hfinite, hvalue⟩ := exists_toFloat?_toIntegral hx
  refine ⟨roundFunction, r, rfl, fun formula => invoke_unary ?_ hfinite formula, hfinite, hvalue⟩
  show Except.ok (rounded (.double x)) = .ok (.double r)
  unfold rounded exactly
  rw [hr]

/-- A function that takes an integer next to a double gives this integer. -/
theorem gives_of_integralPart {name : String} {names : List String} {g : Float → Except NotIntegral Int}
    {doc sample : Text} {isName : Text.isName name.toList = true}
    {suitable : (unary names (integralPart g)).objection? [Kind.number].length = none} {n : Int}
    (hfind : registry.find? name = some
      (function name [.number] .number (unary names (integralPart g)) doc sample isName suitable))
    (hg : g x = .ok n) (hnear : |(n : ℚ) - (ofFloat x).toRat| < 1) : Gives name x n := by
  obtain ⟨r, hr, hfinite, hvalue⟩ := exists_floatOfInt?_of_near hx hnear
  refine ⟨_, r, hfind, fun formula => invoke_unary ?_ hfinite formula, hfinite, hvalue⟩
  have hfloat : (Quantity.whole n).toFloat = .ok r := by simp only [Quantity.toFloat, hr]
  show (liftIntegral (g x) >>= fun n => (lift (Quantity.whole n).toFloat).map Quantity.double) =
    .ok (.double r)
  rw [hg]
  show (lift (Quantity.whole n).toFloat).map Quantity.double = .ok (.double r)
  rw [hfloat]
  rfl

theorem gives_floor : Gives "floor" x ⌊(ofFloat x).toRat⌋ := by
  refine gives_of_integralPart hx (rfl : registry.find? "floor" = some floorFunction) (floorInt_eq hx) ?_
  have hlow := Int.floor_le (ofFloat x).toRat
  have hhigh := Int.lt_floor_add_one (ofFloat x).toRat
  rw [abs_lt]
  constructor <;> linarith

theorem gives_ceil : Gives "ceil" x ⌈(ofFloat x).toRat⌉ := by
  refine gives_of_integralPart hx (rfl : registry.find? "ceil" = some ceilFunction) (ceilInt_eq hx) ?_
  have hlow := Int.le_ceil (ofFloat x).toRat
  have hhigh := Int.ceil_lt_add_one (ofFloat x).toRat
  rw [abs_lt]
  constructor <;> linarith

/-- On every finite double the functions that round to an integer give it exactly, and nothing that
they compute with loses a digit. -/
theorem rounding_exact : Gives "round" x (halfAway (ofFloat x).toRat) ∧
    Gives "floor" x ⌊(ofFloat x).toRat⌋ ∧ Gives "ceil" x ⌈(ofFloat x).toRat⌉ ∧ IsLossless x :=
  ⟨gives_round hx, gives_floor hx, gives_ceil hx, isLossless hx⟩

end

/-- The greatest double below a half; the double nearest to its sum with a half is one. -/
def belowHalf : Float := 0.49999999999999994

theorem toRat_belowHalf : (ofFloat belowHalf).toRat = (2 ^ 53 - 1) * 2 ^ (-54 : Int) := by
  have hparts : ofFloat belowHalf = .finite false (2 ^ 53 - 1) (-54) := by decide +kernel
  rw [hparts, toRat_finite]
  norm_num

def greatest : Float := 1.7976931348623157e308

theorem toRat_greatest : (ofFloat greatest).toRat = ((2 ^ 53 - 1) * 2 ^ 971 : Nat) := by
  have hparts : ofFloat greatest = .finite false (2 ^ 53 - 1) 971 := by decide +kernel
  rw [hparts, toRat_finite, if_neg Bool.false_ne_true, Nat.cast_mul, Nat.cast_pow, Nat.cast_ofNat]
  rfl

/-- Just below a half nothing is rounded up, and the greatest double is rounded to itself. -/
theorem rounding_exact_of_extremes :
    belowHalf.isFinite = true ∧ Gives "round" belowHalf 0 ∧ Gives "floor" belowHalf 0 ∧
    Gives "ceil" belowHalf 1 ∧ greatest.isFinite = true ∧
    Gives "round" greatest ((2 ^ 53 - 1) * 2 ^ 971 : Nat) ∧ IsLossless greatest := by
  have hbelow : belowHalf.isFinite = true := by decide +kernel
  have hgreatest : greatest.isFinite = true := by decide +kernel
  obtain ⟨hround, hfloor, hceil, -⟩ := rounding_exact hbelow
  obtain ⟨hround', -, -, hlossless⟩ := rounding_exact hgreatest
  have hzero : halfAway (ofFloat belowHalf).toRat = 0 := by
    rw [toRat_belowHalf, halfAway_of_nonneg (by norm_num), Int.floor_eq_iff]
    norm_num
  have hdown : ⌊(ofFloat belowHalf).toRat⌋ = 0 := by
    rw [toRat_belowHalf, Int.floor_eq_iff]
    norm_num
  have hup : ⌈(ofFloat belowHalf).toRat⌉ = 1 := by
    rw [toRat_belowHalf, Int.ceil_eq_iff]
    norm_num
  rw [hzero] at hround
  rw [hdown] at hfloor
  rw [hup] at hceil
  rw [toRat_greatest, halfAway_natCast] at hround'
  exact ⟨hbelow, hround, hfloor, hceil, hgreatest, hround', hlossless⟩

end Formula.Library

end Appraisal
