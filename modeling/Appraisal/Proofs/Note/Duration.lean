import Appraisal.Proofs.Note.Terms
import Appraisal.Proofs.Number.Whole

/-!
# The days of a duration

A duration is a count and a unit. Its days are the integer part of a double: the product of the unit
and the double nearest to the count, rounded once more. That is the integer part of the exact product
but where the product of the doubles lies on the other side of a whole number. The main statement:
`exists_days_of_isDuration`.
-/

namespace Appraisal.Note

open Text Binary

/-! ### Tokens -/

abbrev WritesDigits (cs : List Char) (ds : List Nat) : Prop :=
  List.Forall₂ (fun c d => digitValue? c = some d) cs ds

/-- A count without a sign and an exponent; if it has a point, then digits on at least one side. -/
inductive IsCount : List Char → Numeral → Prop
  | whole {cs : List Char} {ds : List Nat} (h : WritesDigits cs ds) (hne : ds ≠ []) :
      IsCount cs ⟨false, ds, [], 0⟩
  | point {cs cs' : List Char} {ds ds' : List Nat} (h : WritesDigits cs ds)
      (h' : WritesDigits cs' ds') (hne : ds ≠ [] ∨ ds' ≠ []) :
      IsCount (cs ++ '.' :: cs') ⟨false, ds, ds', 0⟩

def units : List (List Char × Nat) :=
  [(['y', 'r'], 365), (['y'], 365), (['m', 'o'], 30), (['m'], 30), (['w'], 7), (['d'], 1)]

/-- A count and a unit behind it, in small letters or capitals. -/
def IsDuration (t : Text) (count : Numeral) (unit : Nat) : Prop :=
  ∃ cs name, t.toList = (cs ++ name).map .char ∧ IsCount cs count ∧ (lowerAscii name, unit) ∈ units

variable {c : Char}

theorem toNat_of_isAlpha (h : c.isAlpha = true) : 65 ≤ c.toNat ∧ c.toNat ≤ 122 := by
  simp only [Char.isAlpha, Char.isUpper, Char.isLower, Bool.or_eq_true, Bool.and_eq_true,
    decide_eq_true_eq, ge_iff_le, UInt32.le_iff_toNat_le] at h
  have hcode : c.val.toNat = c.toNat := rfl
  have hbounds : ('A'.val.toNat = 65 ∧ 'Z'.val.toNat = 90) ∧ 'a'.val.toNat = 97 ∧
      'z'.val.toNat = 122 := by decide
  omega

theorem isAlpha_of_isAlpha_toLower (h : c.toLower.isAlpha = true) : c.isAlpha = true := by
  unfold Char.toLower at h
  split at h
  · rename_i hupper
    have hcapital : c.isUpper = true := decide_eq_true hupper
    rw [Char.isAlpha, hcapital, Bool.true_or]
  · exact h

theorem isBlank_of_isAlpha (h : c.isAlpha = true) : isBlank c = false := by
  have hbounds := toNat_of_isAlpha h
  have hblanks : ∀ b ∈ blanks, b < 65 ∨ 122 < b := by decide
  refine Bool.not_eq_true _ ▸ fun hblank => ?_
  have := hblanks _ (List.contains_iff_mem.1 hblank)
  omega

theorem digitValue?_of_isAlpha (h : c.isAlpha = true) : digitValue? c = none := by
  have hbounds := toNat_of_isAlpha h
  have hzeros : ∀ z ∈ digitZeros, z + 10 ≤ 65 ∨ 122 < z := by decide
  unfold digitValue?
  rw [Option.map_eq_none_iff, List.find?_eq_none]
  intro z hz
  have := hzeros z hz
  simp only [Bool.and_eq_true, decide_eq_true_eq]
  omega

theorem isBlank_of_digitValue? {d : Nat} (h : digitValue? c = some d) : isBlank c = false := by
  have hapart : ∀ b ∈ blanks, ∀ z ∈ digitZeros, ¬ (z ≤ b ∧ b < z + 10) := by decide +kernel
  obtain ⟨z, hz, -⟩ := Option.map_eq_some_iff.1 h
  have hrun := List.find?_some hz
  simp only [Bool.and_eq_true, decide_eq_true_eq] at hrun
  refine Bool.not_eq_true _ ▸ fun hblank => ?_
  exact hapart _ (List.contains_iff_mem.1 hblank) z (List.mem_of_find?_eq_some hz) hrun

variable {cs rest : List Char} {ds : List Nat} {count : Numeral}

theorem spanDigits_append (h : WritesDigits cs ds) (hrest : Numeral.spanDigits rest = ([], rest)) :
    Numeral.spanDigits (cs ++ rest) = (ds, rest) := by
  induction h with
  | nil => exact hrest
  | cons hd _ ih => rw [List.cons_append, Numeral.spanDigits, hd, ih]

theorem isBlank_of_writesDigits (h : WritesDigits cs ds) : ∀ c ∈ cs, isBlank c = false := by
  induction h with
  | nil => exact fun c hc => by cases hc
  | cons hd _ ih => exact List.forall_mem_cons.2 ⟨isBlank_of_digitValue? hd, ih⟩

theorem IsCount.isBlank (h : IsCount cs count) : ∀ c ∈ cs, isBlank c = false := by
  cases h with
  | whole h _ => exact isBlank_of_writesDigits h
  | point h h' _ =>
      intro c hc
      rcases List.mem_append.1 hc with hc | hc
      · exact isBlank_of_writesDigits h c hc
      · rcases List.mem_cons.1 hc with rfl | hc
        · decide
        · exact isBlank_of_writesDigits h' c hc

/-- A letter ends a count. -/
theorem IsCount.spanCount_eq (h : IsCount cs count) (hc : c.isAlpha = true) :
    spanCount (cs ++ c :: rest) = some (count, c :: rest) := by
  have hend : Numeral.spanDigits (c :: rest) = ([], c :: rest) := by
    rw [Numeral.spanDigits, digitValue?_of_isAlpha hc]
  cases h with
  | whole h hne =>
      unfold spanCount
      simp only [spanDigits_append h hend]
      split
      · rename_i heq
        rw [(List.cons.inj heq).1] at hc
        exact absurd hc (by decide)
      · exact if_neg (by simp [hne])
  | point h h' hne =>
      have hpoint (s : List Char) : Numeral.spanDigits ('.' :: s) = ([], '.' :: s) := rfl
      unfold spanCount
      rw [List.append_assoc, List.cons_append]
      simp only [spanDigits_append h (hpoint _), spanDigits_append h' hend]
      refine if_neg ?_
      rw [Bool.and_eq_true, List.isEmpty_iff, List.isEmpty_iff]
      exact not_and_or.2 hne

/-! ### Units -/

theorem isAlpha_of_mem_units {name : List Char} {unit : Nat}
    (h : (lowerAscii name, unit) ∈ units) : name ≠ [] ∧ ∀ c ∈ name, c.isAlpha = true := by
  have hunits : ∀ u ∈ units, u.1 ≠ [] ∧ ∀ c ∈ u.1, c.isAlpha = true := by
    simp [units, Char.isAlpha, Char.isUpper, Char.isLower]
  obtain ⟨hne, halpha⟩ := hunits _ h
  refine ⟨fun hnil => hne (congrArg lowerAscii hnil), fun c hc => ?_⟩
  exact isAlpha_of_isAlpha_toLower (halpha _ (List.mem_map_of_mem hc))

theorem unitDays?_eq {name : List Char} {unit : Nat} (h : (name, unit) ∈ units) :
    unitDays? name = some unit := by
  have hunits : ∀ u ∈ units, unitDays? u.1 = some u.2 := by decide
  exact hunits _ h

variable {t : Text} {unit : Nat}

theorem IsDuration.duration?_eq (h : IsDuration t count unit) :
    (chars? t.toList).bind duration? = some (count, unit) := by
  obtain ⟨cs, name, ht, hcount, hunit⟩ := h
  obtain ⟨hne, halpha⟩ := isAlpha_of_mem_units hunit
  obtain ⟨c, name, rfl⟩ := List.exists_cons_of_ne_nil hne
  have hblank : ∀ l ∈ cs ++ c :: name, Text.isBlank l = false := by
    intro l hl
    rcases List.mem_append.1 hl with hl | hl
    · exact hcount.isBlank l hl
    · exact isBlank_of_isAlpha (halpha l hl)
  rw [ht, chars?_map_char, Option.bind_some]
  unfold duration?
  rw [trimmed, trimmedOf_of_forall hblank,
    hcount.spanCount_eq (halpha c List.mem_cons_self)]
  exact congrArg (Option.map (fun days => (count, days))) (unitDays?_eq hunit)

theorem IsDuration.days_eq (h : IsDuration t count unit) :
    days t = truncateInt (scale count.toFloat unit 1) := by
  unfold days
  rw [h.duration?_eq]

theorem IsDuration.negative_eq (h : IsDuration t count unit) : count.negative = false := by
  obtain ⟨_, _, -, hcount, -⟩ := h
  cases hcount <;> rfl

/-! ### Durations -/

/-- The double of a moderate count is near, and that of a count of small binary places is exact. -/
theorem near_toFloat (hN : count.magnitude < 10 ^ 6) :
    |(ofFloat count.toFloat).magnitude - count.magnitude| ≤ 1 / 2 ^ 34 ∧
      ((∃ j : Nat, count.magnitude = j / 2 ^ 24) →
        (ofFloat count.toFloat).magnitude = count.magnitude) := by
  have hbound : count.magnitude < 2 ^ (-33 + 53 : Int) := hN.trans (by norm_num)
  have hnearest : IsNearest count.negative count.magnitude count.toFloat :=
    Numeral.isNearest_toFloat (hbound.trans_le (zpow_le_zpow_right₀ (by norm_num) (by norm_num)))
  refine ⟨(hnearest.error (-33) (by decide) hbound).trans_eq (by norm_num), ?_⟩
  rintro ⟨j, hj⟩
  refine hnearest.exact (-33) (by decide) hbound ⟨j * 2 ^ 9, ?_⟩
  rw [hj]
  push_cast
  norm_num
  ring

/-- The whole numbers that the days of a count reach. -/
theorem exists_truncateInt_scale_toFloat {k : Nat} (hN : count.magnitude < 10 ^ 6) (hk : k ≤ 365)
    (hsign : count.negative = false) :
    ∃ n : Nat, truncateInt (scale count.toFloat k 1) = .ok n ∧
      ∀ m : Nat, 0 < m → m < 2 ^ 52 →
        (m ≤ n ↔ m - halfPlaceBelow m ≤ (ofFloat count.toFloat).magnitude * k) := by
  have hnear := (abs_le.1 (near_toFloat hN).1).2
  obtain ⟨bits, hle, hfloat, hfinite⟩ := count.exists_toFloat_eq
  have hbits : bits < infiniteBits := by
    rw [hfinite]
    refine hN.trans_le ?_
    have hlarge : 10 ^ 6 ≤ leastTooLarge := by decide +kernel
    exact_mod_cast hlarge
  obtain ⟨m, place, -, hm⟩ := exists_spells hbits
  obtain ⟨num, den, hden, hratio, hscale⟩ := exists_scale_eq (hm false) k one_ne_zero
  rw [Nat.cast_one, div_one] at hratio
  rw [hfloat, hsign, hm] at hnear ⊢
  have hs : (num : ℚ) / den = (finite false m (place + leastExponent)).magnitude * k := hratio
  have hlt : (num : ℚ) / den < 2 ^ (1022 : Int) := by
    have hk' : (k : ℚ) ≤ 365 := by exact_mod_cast hk
    have hmoderate : (finite false m (place + leastExponent)).magnitude ≤ 10 ^ 6 + 1 := by
      linarith
    calc (num : ℚ) / den ≤ (10 ^ 6 + 1) * 365 := by
          rw [hs]
          exact mul_le_mul hmoderate hk' (Nat.cast_nonneg k) (by norm_num)
      _ < 2 ^ (29 : Int) := by norm_num
      _ ≤ 2 ^ (1022 : Int) := zpow_le_zpow_right₀ (by norm_num) (by norm_num)
  rw [hscale, truncateInt_nearest_eq (nearestBits_lt_infiniteBits hden hlt), ← hs]
  exact ⟨_, rfl, fun m hm hlt' => le_floor_nearest_iff hm hlt' false hden hlt⟩

theorem units_le {name : List Char} {k : Nat} (h : (name, k) ∈ units) :
    k ≤ 365 ∧ ∃ w : Nat, w.Coprime 10 ∧ k ∣ 10 * w := by
  have hunits : ∀ u ∈ units, u.2 ≤ 365 ∧ ∃ w ∈ [73, 3, 7, 1], Nat.Coprime w 10 ∧ u.2 ∣ 10 * w := by
    decide
  obtain ⟨hle, w, -, hw⟩ := hunits _ h
  exact ⟨hle, w, hw⟩

theorem IsCount.exists_magnitude_eq (h : IsCount cs count) :
    ∃ c : Nat, count.magnitude = c / (10 ^ count.fraction.length : Nat) := by
  have hexponent : count.exponent = 0 := by cases h <;> rfl
  refine ⟨count.coefficient, ?_⟩
  rw [Numeral.magnitude, Numeral.scale, hexponent, zero_sub, zpow_neg, zpow_natCast]
  push_cast
  rfl

/-- A decimal whose product with a unit is whole has at most one place after the point. -/
theorem exists_tenfold_eq {N : ℚ} {c f k w j : Nat} (hN : N = c / (10 ^ f : Nat))
    (hw : w.Coprime 10) (hk : k ∣ 10 * w) (hj : N * k = j) : ∃ i : Nat, N * 10 = i := by
  have hpower : ((10 ^ f : Nat) : ℚ) ≠ 0 := by positivity
  have hproduct : c * k = j * 10 ^ f := by
    rw [hN, div_mul_eq_mul_div, div_eq_iff hpower] at hj
    exact_mod_cast hj
  have hdvd : 10 ^ f ∣ c * (10 * w) := by
    obtain ⟨r, hr⟩ := hk
    rw [hr, ← mul_assoc, hproduct]
    exact Dvd.intro_left (j * r) (by ring)
  rw [← mul_assoc] at hdvd
  obtain ⟨i, hi⟩ := (hw.symm.pow_left f).dvd_of_dvd_mul_right hdvd
  refine ⟨i, ?_⟩
  rw [hN, div_mul_eq_mul_div, div_eq_iff hpower]
  exact_mod_cast hi.trans (mul_comm _ _)

/-- The days of a count of less than a million units. They are the integer part of the exact product,
or one day off when the product of the doubles is too far on the other side of a whole number. A count
with at most 24 binary places is exact. One with at most seven decimals is, too, unless its tenfold is
whole and so is the number of days, of which then one may be missing. -/
theorem exists_days_of_isDuration (h : IsDuration t count unit) (hN : count.magnitude < 10 ^ 6) :
    ∃ n : Nat, days t = .ok n ∧
      Truncates (count.magnitude * unit) ((ofFloat count.toFloat).magnitude * unit) n ∧
      ((∃ j : Nat, count.magnitude = j / 2 ^ 24) → n = ⌊count.magnitude * unit⌋₊) ∧
      (count.fraction.length ≤ 7 → n = ⌊count.magnitude * unit⌋₊ ∨
        (∃ j : Nat, count.magnitude * 10 = j) ∧ (n : ℚ) + 1 = count.magnitude * unit) := by
  obtain ⟨cs, name, -, hcount, hunit⟩ := id h
  obtain ⟨hle, w, hw, hdvd⟩ := units_le hunit
  obtain ⟨hclose, hexact⟩ := near_toFloat hN
  obtain ⟨n, hdays, hn⟩ := exists_truncateInt_scale_toFloat hN hle h.negative_eq
  have hunit' : (unit : ℚ) ≤ 365 := by exact_mod_cast hle
  have hunit0 : (0 : ℚ) ≤ unit := Nat.cast_nonneg unit
  have hd0 := (ofFloat count.toFloat).magnitude_nonneg
  generalize (ofFloat count.toFloat).magnitude = d at *
  have hs : |d * unit - count.magnitude * unit| < 1 / 2 ^ 25 := by
    rw [← sub_mul, abs_mul, abs_of_nonneg hunit0]
    calc |d - count.magnitude| * unit ≤ 1 / 2 ^ 34 * 365 :=
          mul_le_mul hclose hunit' hunit0 (by norm_num)
      _ < 1 / 2 ^ 25 := by norm_num
  have hlt : count.magnitude * unit + 2 ≤ 2 ^ 29 := by
    have hle := mul_le_mul hN.le hunit' hunit0 (by norm_num)
    norm_num at hle ⊢
    linarith
  have hv : 0 ≤ count.magnitude * unit := mul_nonneg count.magnitude_nonneg hunit0
  have htruncates := truncates hn hs hv (mul_nonneg hd0 hunit0) hlt
  refine ⟨n, h.days_eq.trans hdays, htruncates, fun hj => ?_, fun hfew => ?_⟩
  · obtain ⟨j, hj⟩ := id hj
    have hratio : count.magnitude * unit = (j * unit : Nat) / (2 ^ 24 : Nat) := by
      rw [hj]
      push_cast
      ring
    refine le_antisymm ?_ ?_
    · exact le_floor_of_ratio hn hratio (by norm_num) le_rfl hs hlt
    · refine floor_le_of_exact hn (by rw [hexact ⟨j, hj⟩]) hv ?_
      linarith
  · obtain ⟨c, hc⟩ := hcount.exists_magnitude_eq
    have hratio : count.magnitude * unit = (c * unit : Nat) / (10 ^ count.fraction.length : Nat) := by
      rw [hc]
      push_cast
      ring
    have hfew' : 10 ^ count.fraction.length ≤ 2 ^ 24 :=
      (Nat.pow_le_pow_right (by norm_num) hfew).trans (by norm_num)
    have hends := eq_floor_or_of_ratio hn hratio (Nat.pow_pos (by norm_num)) hfew' hs hv
      (mul_nonneg hd0 hunit0) hlt
    refine hends.imp_right ?_
    rintro ⟨⟨j, hj⟩, hmissing⟩
    exact ⟨exists_tenfold_eq hc hw hdvd hj, hmissing⟩

/-- Half a day of one and a half years is cut off. -/
theorem days_of_oneAndHalf :
    IsDuration (Text.ofString "1.5YR") ⟨false, [1], [5], 0⟩ 365 ∧
      Numeral.magnitude ⟨false, [1], [5], 0⟩ < 10 ^ 6 ∧
      days (Text.ofString "1.5YR") = .ok 547 := by
  have hduration : IsDuration (Text.ofString "1.5YR") ⟨false, [1], [5], 0⟩ 365 := by
    have hwhole : WritesDigits ['1'] [1] := .cons (by decide) .nil
    have hfraction : WritesDigits ['5'] [5] := .cons (by decide) .nil
    exact ⟨_, ['Y', 'R'], by decide +kernel, .point hwhole hfraction (.inl (by decide)), by decide⟩
  have hvalue : Numeral.magnitude ⟨false, [1], [5], 0⟩ = 3 / 2 := by
    norm_num [Numeral.magnitude, Numeral.coefficient, Numeral.scale, digitsValue]
  have hless : Numeral.magnitude ⟨false, [1], [5], 0⟩ < 10 ^ 6 := by
    rw [hvalue]
    norm_num
  obtain ⟨n, hdays, -, hexact, -⟩ := exists_days_of_isDuration hduration hless
  have hn : n = 547 := by
    rw [hexact ⟨3 * 2 ^ 23, by norm_num [hvalue]⟩, hvalue, Nat.floor_eq_iff (by norm_num)]
    norm_num
  rw [hn] at hdays
  exact ⟨hduration, hless, hdays⟩

/-- Seven fifths of a year are 511 days, of which one is lost. -/
theorem days_of_fourteenTenths :
    IsDuration (Text.ofString "1.4y") ⟨false, [1], [4], 0⟩ 365 ∧
      Numeral.magnitude ⟨false, [1], [4], 0⟩ * 365 = 511 ∧
      days (Text.ofString "1.4y") = .ok 510 := by
  have hwhole : WritesDigits ['1'] [1] := .cons (by decide) .nil
  have hfraction : WritesDigits ['4'] [4] := .cons (by decide) .nil
  refine ⟨⟨_, ['y'], ?_, .point hwhole hfraction (.inl (by decide)), by decide⟩, ?_, ?_⟩
  · decide +kernel
  · norm_num [Numeral.magnitude, Numeral.coefficient, Numeral.scale, digitsValue]
  · decide +kernel

end Appraisal.Note
