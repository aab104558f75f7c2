import Appraisal.Proofs.Decimal.Value
import Appraisal.Proofs.Number.Fixed
import Appraisal.Proofs.Number.Numeral

/-!
# Reading a reported double

Reports write a double positionally or with an exponent, after its first digit has decided which. In
each form the characters read back as a numeral with the digits of the double: the number that the
search for the shortest decimal has found. As money a finite double is this decimal, which is finite
and below half a place past the largest double. The main statements: `exists_isWrittenAs_magnitude`
and `hasValue_ofFloat`.
-/

namespace Appraisal

open Text

/-! ### Digits -/

theorem digitsValue_append_replicate (ds : List Nat) (k : Nat) :
    digitsValue (ds ++ List.replicate k 0) = digitsValue ds * 10 ^ k := by
  induction k with
  | zero => rw [List.replicate_zero, List.append_nil, Nat.pow_zero, Nat.mul_one]
  | succ k ih =>
      rw [List.replicate_succ', ← List.append_assoc, digitsValue_append_singleton, ih, Nat.pow_succ]
      ring

/-- Zeros at the end of a number are cut off. -/
theorem exists_withoutTrailingZeros {ds : List Nat} (h : ∀ d ∈ ds, d < 10) :
    ∃ (kept : List Nat) (k : Nat), withoutTrailingZeros (ds.map digitChar) = kept.map digitChar ∧
      ds = kept ++ List.replicate k 0 := by
  induction ds using List.reverseRecOn with
  | nil => exact ⟨[], 0, rfl, rfl⟩
  | append_singleton ds d ih =>
      obtain ⟨kept, k, hkept, heq⟩ := ih (fun d hd => h d (List.mem_append_left _ hd))
      have hzero : ∀ d < 10, (digitChar d == '0') = decide (d = 0) := by decide
      have hcut : withoutTrailingZeros ((ds ++ [d]).map digitChar) =
          if d = 0 then withoutTrailingZeros (ds.map digitChar) else (ds ++ [d]).map digitChar := by
        unfold withoutTrailingZeros
        rw [List.map_append, List.map_singleton, List.reverse_append, List.reverse_singleton,
          List.singleton_append, List.dropWhile_cons, hzero d (h d (by simp))]
        by_cases hd : d = 0
        · rw [if_pos (decide_eq_true hd), if_pos hd]
        · rw [if_neg (by simpa using hd), if_neg hd, List.reverse_cons, List.reverse_reverse]
      rw [hcut]
      by_cases hd : d = 0
      · refine ⟨kept, k + 1, by rw [if_pos hd, hkept], ?_⟩
        rw [heq, hd, List.append_assoc, List.replicate_succ']
      · exact ⟨ds ++ [d], 0, if_neg hd, (List.append_nil _).symm⟩

/-! ### Numerals with an exponent -/

namespace Numeral

inductive IsEnding : List Char → Int → Prop
  | none : IsEnding [] 0
  | written (f : FloatNotation) (e : Int) : IsEnding (f.exponentText e) e

def unsigned (whole fraction : List Nat) (ending : List Char) : List Char :=
  whole.map digitChar ++ ((if fraction = [] then [] else '.' :: fraction.map digitChar) ++ ending)

def signChars (negative : Bool) : List Char := if negative then ['-'] else []

structure IsWrittenAs (n : Numeral) (s : List Char) : Prop where
  whole : ∀ d ∈ n.whole, d < 10
  fraction : ∀ d ∈ n.fraction, d < 10
  ne_nil : n.whole ≠ []
  exists_eq : ∃ ending, IsEnding ending n.exponent ∧
    s = signChars n.negative ++ unsigned n.whole n.fraction ending

variable {ending : List Char} {e : Int} {n : Numeral} {s : List Char}

theorem IsEnding.spanDigits_eq (h : IsEnding ending e) : spanDigits ending = ([], ending) := by
  cases h with
  | none => rfl
  | written f e => rfl

theorem IsEnding.exponent?_eq (h : IsEnding ending e) : exponent? ending = some e := by
  cases h with
  | none => rfl
  | written f e =>
      obtain ⟨ds, hds, hlt, hvalue, hne, -⟩ := exists_padDigits f.exponentWidth e.natAbs
      have hspan : spanDigits (ds.map digitChar) = (ds, []) := by
        have happend := spanDigits_map_append hlt (show spanDigits [] = ([], []) from rfl)
        rwa [List.append_nil] at happend
      obtain ⟨d, ds, rfl⟩ := List.exists_cons_of_ne_nil hne
      unfold FloatNotation.exponentText
      rw [hds]
      by_cases he : e < 0
      · rw [if_pos he]
        simp only [exponent?, true_or, spanSign, hspan, if_true, hvalue]
        exact congrArg some (by omega)
      · rw [if_neg he]
        simp only [exponent?, true_or, spanSign, hspan, Bool.false_eq_true, if_true, if_false, hvalue]
        exact congrArg some (by omega)

theorem IsEnding.mem (h : IsEnding ending e) {c : Char} (hc : c ∈ ending) :
    c = 'e' ∨ c = '+' ∨ c = '-' ∨ ∃ d < 10, c = digitChar d := by
  cases h with
  | none => simp at hc
  | written f e =>
      obtain ⟨ds, hds, hlt, -⟩ := exists_padDigits f.exponentWidth e.natAbs
      unfold FloatNotation.exponentText at hc
      rw [hds, List.mem_cons, List.mem_cons] at hc
      rcases hc with rfl | hc | hc
      · exact .inl rfl
      · split at hc
        · exact .inr (.inr (.inl hc))
        · exact .inr (.inl hc)
      · obtain ⟨d, hd, rfl⟩ := List.mem_map.1 hc
        exact .inr (.inr (.inr ⟨d, hlt d hd, rfl⟩))

theorem spanSign_signChars {whole : List Nat} (h : ∀ d ∈ whole, d < 10) (hne : whole ≠ [])
    (negative : Bool) (rest : List Char) :
    spanSign (signChars negative ++ (whole.map digitChar ++ rest)) =
      (negative, whole.map digitChar ++ rest) := by
  cases negative with
  | false => exact spanSign_map_append h hne rest
  | true => rfl

theorem IsWrittenAs.read?_eq (h : n.IsWrittenAs s) : read? s = some n := by
  obtain ⟨negative, whole, fraction, e⟩ := n
  obtain ⟨hwhole, hfraction, hne, ending, hending, rfl⟩ := h
  dsimp only at hwhole hfraction hne hending ⊢
  have hempty : (whole.isEmpty && fraction.isEmpty) = false := by simp [hne]
  unfold read? unsigned
  rw [spanSign_signChars hwhole hne]
  by_cases hnil : fraction = []
  · subst hnil
    rw [if_pos rfl, List.nil_append]
    simp only [spanDigits_map_append hwhole hending.spanDigits_eq]
    have hrest : (if (whole.isEmpty && ([] : List Nat).isEmpty) = true then none
        else (exponent? ending).map (fun e => (⟨negative, whole, [], e⟩ : Numeral))) =
          some ⟨negative, whole, [], e⟩ := by
      rw [hempty, if_neg Bool.false_ne_true, hending.exponent?_eq]
      rfl
    -- the ending does not begin with a point
    cases hending with
    | none => exact hrest
    | written f e => exact hrest
  · rw [if_neg hnil]
    have hpoint : spanDigits ('.' :: (fraction.map digitChar ++ ending)) =
        ([], '.' :: (fraction.map digitChar ++ ending)) := rfl
    simp only [List.cons_append, spanDigits_map_append hwhole hpoint,
      spanDigits_map_append hfraction hending.spanDigits_eq, hempty]
    rw [hending.exponent?_eq]
    rfl

theorem IsWrittenAs.not_isBlank (h : n.IsWrittenAs s) {c : Char} (hc : c ∈ s) :
    isBlank c = false ∧ c ≠ '_' := by
  have hdigit : ∀ d < 10, isBlank (digitChar d) = false ∧ digitChar d ≠ '_' := by decide
  obtain ⟨hwhole, hfraction, -, ending, hending, rfl⟩ := h
  unfold unsigned signChars at hc
  rcases List.mem_append.1 hc with hc | hc
  · split at hc
    · obtain rfl := List.mem_singleton.1 hc
      decide
    · simp at hc
  · rcases List.mem_append.1 hc with hc | hc
    · obtain ⟨d, hd, rfl⟩ := List.mem_map.1 hc
      exact hdigit d (hwhole d hd)
    · rcases List.mem_append.1 hc with hc | hc
      · split at hc
        · simp at hc
        · rcases List.mem_cons.1 hc with rfl | hc
          · decide
          · obtain ⟨d, hd, rfl⟩ := List.mem_map.1 hc
            exact hdigit d (hfraction d hd)
      · rcases hending.mem hc with rfl | rfl | rfl | ⟨d, hd, rfl⟩
        · decide
        · decide
        · decide
        · exact hdigit d hd

theorem IsWrittenAs.ofChars_eq (h : n.IsWrittenAs s) :
    Decimal.ofChars s = Decimal.ofNumeral n := by
  have hread := h.read?_eq
  have hplain (c : Char) (hc : c ∈ s) := h.not_isBlank hc
  obtain ⟨negative, whole, fraction, e⟩ := n
  obtain ⟨hwhole, -, hne, ending, -, rfl⟩ := h
  obtain ⟨d, ds, rfl⟩ := List.exists_cons_of_ne_nil hne
  exact Decimal.ofChars_of_read? hplain (hwhole d List.mem_cons_self)
    (spanSign_signChars hwhole hne negative _) hread

end Numeral

/-! ### Reports -/

namespace FloatNotation

open Numeral Decimal

variable {f : FloatNotation} {ds : List Nat} {e : Int} {negative : Bool}

/-- Characters that write, behind a sign, a numeral of the digits without a zero too many in front.
Their first one counts a power of ten. -/
def Reports (negative : Bool) (ds : List Nat) (e : Int) (s : List Char) : Prop :=
  ∃ n : Numeral, n.IsWrittenAs (signChars negative ++ s) ∧ n.negative = negative ∧
    n.magnitude = digitsValue ds * (10 : ℚ) ^ (e + 1 - ds.length) ∧
    min (-1) (e + 1 - ds.length) ≤ n.scale ∧ Unpadded n.whole

theorem reports_unsigned {whole fraction : List Nat} {ending : List Char} {exponent : Int}
    (hwhole : ∀ d ∈ whole, d < 10) (hfraction : ∀ d ∈ fraction, d < 10) (hne : whole ≠ [])
    (hending : IsEnding ending exponent)
    (hvalue : digitsValue (whole ++ fraction) * (10 : ℚ) ^ (exponent - fraction.length) =
      digitsValue ds * (10 : ℚ) ^ (e + 1 - ds.length))
    (hscale : min (-1) (e + 1 - ds.length) ≤ exponent - fraction.length)
    (hunpadded : Unpadded whole) : Reports negative ds e (unsigned whole fraction ending) :=
  ⟨⟨negative, whole, fraction, exponent⟩, ⟨hwhole, hfraction, hne, ending, hending, rfl⟩, rfl,
    hvalue, hscale, hunpadded⟩

section

variable (h : ∀ d ∈ ds, d < 10) (hne : ds ≠ [])
include h hne

/-- All digits stand behind the point. -/
theorem reports_small (he : e < 0) :
    Reports negative ds e
      ('0' :: '.' :: List.replicate (-e - 1).toNat '0' ++ ds.map digitChar) := by
  have hform : '0' :: '.' :: List.replicate (-e - 1).toNat '0' ++ ds.map digitChar =
      unsigned [0] (List.replicate (-e - 1).toNat 0 ++ ds) [] := by
    rw [unsigned, if_neg (by simp [hne]), List.append_nil, List.map_append, List.map_replicate]
    rfl
  have hdigits : digitsValue ([0] ++ (List.replicate (-e - 1).toNat 0 ++ ds)) = digitsValue ds := by
    rw [← digitsValue_replicate_append ((-e - 1).toNat + 1) ds, List.replicate_succ]
    rfl
  have hlength : (0 : Int) - ((List.replicate (-e - 1).toNat 0 ++ ds).length : Nat) =
      e + 1 - ds.length := by
    rw [List.length_append, List.length_replicate]
    omega
  rw [hform]
  refine reports_unsigned (by simp) (fun d hd => ?_) (by simp) .none ?_ ?_ (.inl rfl)
  · exact (List.mem_append.1 hd).elim lt_ten_of_mem_zeros (h d)
  · rw [hdigits, hlength]
  · rw [hlength]
    exact min_le_right _ _

variable (hhead : ds.head? ≠ some 0)
include hhead

/-- Zeros fill up to the point. -/
theorem reports_whole (he : 0 ≤ e) (hlong : ds.length ≤ e.toNat + 1) :
    Reports negative ds e
      (ds.map digitChar ++ List.replicate (e.toNat + 1 - ds.length) '0' ++ ['.', '0']) := by
  have hform : ds.map digitChar ++ List.replicate (e.toNat + 1 - ds.length) '0' ++ ['.', '0'] =
      unsigned (ds ++ List.replicate (e.toNat + 1 - ds.length) 0) [0] [] := by
    rw [unsigned, if_neg (by simp), List.append_nil, List.map_append, List.map_replicate]
    rfl
  have hexponent : e + 1 - ds.length = (e.toNat + 1 - ds.length : Nat) := by omega
  rw [hform]
  refine reports_unsigned (fun d hd => ?_) (by simp) (by simp [hne]) .none ?_ (by simp) (.inr ?_)
  · exact (List.mem_append.1 hd).elim (h d) lt_ten_of_mem_zeros
  · rw [digitsValue_append_singleton, digitsValue_append_replicate, hexponent, zpow_natCast]
    push_cast
    rw [List.length_singleton]
    norm_num
    ring
  · rwa [List.head?_append_of_ne_nil _ hne]

/-- The point stands between the digits. -/
theorem reports_between (he : 0 ≤ e) (hshort : e.toNat + 1 < ds.length) :
    Reports negative ds e
      ((ds.map digitChar).take (e.toNat + 1) ++ '.' :: (ds.map digitChar).drop (e.toNat + 1)) := by
  have hform : (ds.map digitChar).take (e.toNat + 1) ++ '.' :: (ds.map digitChar).drop (e.toNat + 1) =
      unsigned (ds.take (e.toNat + 1)) (ds.drop (e.toNat + 1)) [] := by
    rw [unsigned, if_neg (by simp; omega), List.append_nil, List.map_take, List.map_drop]
  have hlength : (0 : Int) - ((ds.drop (e.toNat + 1)).length : Nat) = e + 1 - ds.length := by
    rw [List.length_drop]
    omega
  rw [hform]
  refine reports_unsigned (fun d hd => h d (List.mem_of_mem_take hd))
    (fun d hd => h d (List.mem_of_mem_drop hd)) (by simp [hne]) .none ?_ ?_ (.inr ?_)
  · rw [List.take_append_drop, hlength]
  · rw [hlength]
    exact min_le_right _ _
  · rwa [List.head?_take, if_neg (Nat.succ_ne_zero _)]

/-- Digits whose first one counts a power of ten are written as a numeral of their number. -/
theorem reports_place (hmark : f.integralMark = ".0") (negative : Bool) (e : Int) :
    Reports negative ds e (f.place (ds.map digitChar) e) := by
  unfold place
  by_cases hplain : (decide (f.lowest ≤ e) && decide (e < f.limit)) = true
  · rw [if_pos hplain]
    by_cases hsmall : e < 0
    · rw [if_pos hsmall]
      exact reports_small h hne hsmall
    · rw [if_neg hsmall, hmark]
      simp only [List.length_map]
      split
      · rename_i hlong
        exact reports_whole h hne hhead (Int.not_lt.1 hsmall) hlong
      · rename_i hshort
        exact reports_between h hne hhead (Int.not_lt.1 hsmall) (Nat.not_le.1 hshort)
  · -- one digit in front of the point, the others behind it
    rw [if_neg hplain]
    obtain ⟨d, rest, rfl⟩ := List.exists_cons_of_ne_nil hne
    rw [List.forall_mem_cons] at h
    have hlength : e - rest.length = e + 1 - ((d :: rest).length : Nat) := by
      rw [List.length_cons]
      omega
    have hunsigned : Reports negative (d :: rest) e (unsigned [d] rest (f.exponentText e)) := by
      refine reports_unsigned (by simpa using h.1) h.2 (by simp) (.written f e) ?_ ?_ (.inr hhead)
      · rw [hlength]
        rfl
      · rw [hlength]
        exact min_le_right _ _
    cases rest with
    | nil => exact hunsigned
    | cons d' rest => exact hunsigned

end

/-- The digits of a number other than zero that are left without the zeros at their end. -/
theorem exists_kept {n : Nat} (hn : n ≠ 0) :
    ∃ (kept : List Nat) (k : Nat), withoutTrailingZeros (digitsOf n) = kept.map digitChar ∧
      (digitsOf n).length = kept.length + k ∧ digitsValue kept * 10 ^ k = n ∧
      (∀ d ∈ kept, d < 10) ∧ kept ≠ [] ∧ kept.head? ≠ some 0 := by
  obtain ⟨ds, hds, hlt, hvalue⟩ := exists_digitsOf n
  obtain ⟨kept, k, hkept, rfl⟩ := exists_withoutTrailingZeros hlt
  rw [digitsValue_append_replicate] at hvalue
  have hne : kept ≠ [] := by
    rintro rfl
    rw [show digitsValue [] = 0 from rfl, Nat.zero_mul] at hvalue
    exact hn hvalue.symm
  refine ⟨kept, k, hds ▸ hkept, ?_, hvalue, fun d hd => hlt d (List.mem_append_left _ hd), hne, ?_⟩
  · rw [hds, List.length_map, List.length_append, List.length_replicate]
  · have happend : (kept ++ List.replicate k 0).head? = kept.head? :=
      List.head?_append_of_ne_nil kept hne
    rw [← happend]
    refine (unpadded_of_digitsOf hds hlt).resolve_left (fun hzero => hn ?_)
    rw [← digitsValue_append_replicate, hzero] at hvalue
    exact hvalue.symm

/-- The report of a double other than zero is a numeral of its shortest decimal. -/
theorem exists_isWrittenAs_magnitude (hmark : f.integralMark = ".0") {x : Float} {negative : Bool}
    {m : Nat} {q : Int} (hx : Binary.ofFloat x = .finite negative m q) (hm : m ≠ 0) :
    ∃ n : Numeral, n.IsWrittenAs (signChars negative ++ f.magnitude m q) ∧ n.negative = negative ∧
      n.magnitude = (shortest m q).digits * (10 : ℚ) ^ (shortest m q).exponent ∧
      -1000 ≤ n.scale ∧ Unpadded n.whole := by
  obtain ⟨hdigits, hexponent, -⟩ := shortest_mem hx hm
  unfold magnitude
  rw [if_neg hm]
  generalize shortest m q = found at hdigits hexponent ⊢
  dsimp only
  obtain ⟨kept, k, hkept, hlength, hvalue, hlt, hne, hhead⟩ := exists_kept hdigits
  obtain ⟨n, hn, hsign, hmagnitude, hscale, hunpadded⟩ :=
    reports_place hlt hne hhead hmark negative
      (found.exponent + (digitsOf found.digits).length - 1)
  have hlast : found.exponent + ((digitsOf found.digits).length : Int) - 1 + 1 - kept.length =
      k + found.exponent := by
    rw [hlength]
    push_cast
    ring
  rw [hlast] at hmagnitude hscale
  rw [hkept]
  refine ⟨n, hn, hsign, ?_, by omega, hunpadded⟩
  rw [hmagnitude, ← hvalue, zpow_add₀ (by norm_num), zpow_natCast]
  push_cast
  ring

theorem chars_eq (f : FloatNotation) {x : Float} {m : Nat} {q : Int}
    (hx : Binary.ofFloat x = .finite negative m q) :
    f.chars x = signChars negative ++ f.magnitude m q := by
  unfold chars
  rw [hx]
  rfl

/-- A finite double is written as a numeral that is read as the double, zeros with their sign. -/
theorem exists_isWrittenAs_chars (hmark : f.integralMark = ".0") {x : Float}
    (h : x.isFinite = true) : ∃ n : Numeral, n.IsWrittenAs (f.chars x) ∧ n.toFloat = x := by
  obtain ⟨negative, m, q, hx⟩ := Binary.exists_ofFloat_eq_finite h
  rw [chars_eq f hx]
  by_cases hm : m = 0
  · obtain ⟨bits, place, hs, -, -, hbits⟩ := Binary.exists_eq_signed hx
    refine ⟨⟨negative, [0], [0], 0⟩, ⟨by simp, by simp, by simp, [], .none, ?_⟩, ?_⟩
    · rw [magnitude, if_pos hm, hmark]
      rfl
    · rw [hbits, hs.bits_eq_zero_iff.2 hm]
      rfl
  · obtain ⟨n, hn, hsign, hmagnitude, -⟩ := exists_isWrittenAs_magnitude hmark hx hm
    exact ⟨n, hn, toFloat_eq_of_magnitude hx hm hsign hmagnitude⟩

theorem exists_mark_mem_place (hmark : f.integralMark = ".0") {s : List Char} (hne : s ≠ [])
    (e : Int) : ∃ c ∈ f.place s e, c = '.' ∨ c = 'e' := by
  unfold place
  split
  · split
    · exact ⟨'.', by simp, .inl rfl⟩
    · dsimp only
      split
      · exact ⟨'.', by simp [hmark], .inl rfl⟩
      · exact ⟨'.', by simp, .inl rfl⟩
  · cases s with
    | nil => exact absurd rfl hne
    | cons d rest =>
        refine ⟨'e', ?_, .inr rfl⟩
        cases rest with
        | nil => simp [exponentText]
        | cons d' rest => simp [exponentText]

/-- A point or an exponent tells a double from a whole number. -/
theorem exists_mark_mem_chars (hmark : f.integralMark = ".0") {x : Float} (h : x.isFinite = true) :
    ∃ c ∈ f.chars x, c = '.' ∨ c = 'e' := by
  obtain ⟨negative, m, q, hx⟩ := Binary.exists_ofFloat_eq_finite h
  have hmagnitude : ∃ c ∈ f.magnitude m q, c = '.' ∨ c = 'e' := by
    unfold magnitude
    split
    · exact ⟨'.', by simp [hmark], .inl rfl⟩
    · rename_i hm
      obtain ⟨kept, k, hkept, -, -, -, hne, -⟩ := exists_kept (shortest_mem hx hm).1
      exact exists_mark_mem_place hmark (by simp [hkept, hne]) _
  obtain ⟨c, hc, hcase⟩ := hmagnitude
  rw [chars_eq f hx]
  exact ⟨c, List.mem_append_right _ hc, hcase⟩

end FloatNotation

/-! ### As money -/

open Binary

namespace Decimal

/-- A numeral in the range of doubles is written by a decimal. -/
theorem ofNumeral_eq_ok {n : Numeral} (hne : n.coefficient ≠ 0) (hscale : -1000 ≤ n.scale)
    (hmagnitude : n.magnitude < leastTooLarge) :
    ofNumeral n = .ok (finite n.negative n.coefficient n.scale) := by
  have hfirst := length_lt_of_lt hne (hmagnitude.trans_le leastTooLarge_le_ten_zpow)
  unfold ofNumeral
  simp only
  rw [adjusted_eq hne, if_neg]
  unfold writtenLimit leastWritten writtenLimit
  simp only [Bool.or_eq_true, decide_eq_true_eq]
  omega

variable {x : Float} {negative : Bool} {m : Nat} {q : Int}

/-- As money a finite double is a decimal with its sign and with the digits of its shortest one. -/
theorem exists_ofFloat_eq (h : Binary.ofFloat x = .finite negative m q) :
    ∃ c e, ofFloat x = finite negative c e ∧ (c : ℚ) * 10 ^ e =
      if m = 0 then 0 else (shortest m q).digits * (10 : ℚ) ^ (shortest m q).exponent := by
  have htext : floatText x =
      String.ofList (Numeral.signChars negative ++ reportNotation.magnitude m q) := by
    rw [floatText, FloatNotation.text, FloatNotation.chars_eq _ h]
  unfold ofFloat
  rw [h, htext]
  dsimp only
  rw [read?_ofList]
  by_cases hm : m = 0
  · subst hm
    have hread : ∀ s, ofChars (Numeral.signChars s ++ "0.0".toList) = .ok (finite s 0 (-1)) := by
      decide +kernel
    rw [if_pos rfl, show reportNotation.magnitude 0 q = "0.0".toList from rfl, hread]
    exact ⟨0, -1, rfl, by rw [Nat.cast_zero, zero_mul]⟩
  · obtain ⟨n, hn, hsign, hmagnitude, hscale, -⟩ :=
      FloatNotation.exists_isWrittenAs_magnitude (show reportNotation.integralMark = ".0" from rfl) h hm
    obtain ⟨hdigits, -, hlarge⟩ := shortest_mem h hm
    have hne : n.coefficient ≠ 0 := by
      intro hzero
      rw [Numeral.magnitude, hzero, Nat.cast_zero, zero_mul] at hmagnitude
      exact absurd hmagnitude.symm (mul_ne_zero (Nat.cast_ne_zero.2 hdigits) (ten_zpow_pos _).ne')
    rw [hn.ofChars_eq, ofNumeral_eq_ok hne hscale (hmagnitude ▸ hlarge), if_neg hm, hsign]
    exact ⟨n.coefficient, n.scale, rfl, hmagnitude⟩

/-- As money a finite double is its shortest decimal. -/
theorem hasValue_ofFloat (h : Binary.ofFloat x = .finite negative m q) :
    (ofFloat x).HasValue (if m = 0 then 0
      else number negative (shortest m q).digits (shortest m q).exponent) := by
  obtain ⟨c, e, hx, hvalue⟩ := exists_ofFloat_eq h
  refine ⟨hx ▸ rfl, ?_⟩
  have hnumber : number negative c e = (if negative then -1 else 1) * (c * 10 ^ e) := by
    unfold number
    cases negative <;> simp
  rw [hx, toRat, hnumber, hvalue]
  unfold number
  split <;> cases negative <;> simp

theorem exists_ofFloat (h : x.isFinite = true) :
    ∃ v, (ofFloat x).HasValue v ∧ |v| < leastTooLarge := by
  obtain ⟨negative, m, q, hx⟩ := exists_ofFloat_eq_finite h
  refine ⟨_, hasValue_ofFloat hx, ?_⟩
  split
  · rw [abs_zero, Nat.cast_pos]
    decide +kernel
  · rename_i hm
    rw [abs_number]
    exact (shortest_mem hx hm).2.2

end Decimal

end Appraisal
