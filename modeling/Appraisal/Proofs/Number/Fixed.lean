import Appraisal.Decimal.Text
import Appraisal.Proofs.Number.Digits
import Appraisal.Proofs.Text.Basic

/-!
# Reading numerals with a fixed number of places

The digits of a number read back as that number. A ratio that is written with a fixed number of
decimal places reads back as a decimal with that many places: the ratio rounded to them.
-/

namespace Appraisal

open Text

/-! ### Digits -/

theorem digitValue?_digitChar : ∀ d < 10, digitValue? (digitChar d) = some d := by decide

theorem digitsValue_append_singleton (ds : List Nat) (d : Nat) :
    digitsValue (ds ++ [d]) = 10 * digitsValue ds + d := by
  unfold digitsValue
  rw [List.foldl_append]
  rfl

theorem digitsValue_replicate_append (k : Nat) (ds : List Nat) :
    digitsValue (List.replicate k 0 ++ ds) = digitsValue ds := by
  induction k with
  | zero => rfl
  | succ k ih =>
      rw [List.replicate_succ, List.cons_append]
      exact ih

theorem exists_prependDigits (n : Nat) (acc : List Char) :
    ∃ ds : List Nat, prependDigits n acc = ds.map digitChar ++ acc ∧ (∀ d ∈ ds, d < 10) ∧
      digitsValue ds = n := by
  induction n using Nat.strongRecOn generalizing acc with
  | ind n ih =>
      rw [prependDigits]
      by_cases hn : n = 0
      · rw [dif_pos hn, hn]
        exact ⟨[], rfl, by simp, rfl⟩
      · rw [dif_neg hn]
        obtain ⟨ds, hds, hlt, hvalue⟩ :=
          ih (n / 10) (Nat.div_lt_self (Nat.pos_of_ne_zero hn) (by decide)) (digitChar (n % 10) :: acc)
        refine ⟨ds ++ [n % 10], ?_, fun d hd => ?_, ?_⟩
        · rw [hds, List.map_append, List.append_assoc]
          rfl
        · rcases List.mem_append.1 hd with hd | hd
          · exact hlt d hd
          · rw [List.mem_singleton.1 hd]
            exact Nat.mod_lt n (by decide)
        · rw [digitsValue_append_singleton, hvalue]
          omega

theorem exists_digitsOf (n : Nat) :
    ∃ ds : List Nat, digitsOf n = ds.map digitChar ∧ (∀ d ∈ ds, d < 10) ∧ digitsValue ds = n := by
  unfold digitsOf
  by_cases hn : n = 0
  · rw [if_pos hn, hn]
    exact ⟨[0], rfl, by simp, rfl⟩
  · obtain ⟨ds, hds, hlt, hvalue⟩ := exists_prependDigits n []
    rw [if_neg hn, hds]
    exact ⟨ds, List.append_nil _, hlt, hvalue⟩

theorem digitsValue_map_digitsOf (n : Nat) :
    digitsValue ((digitsOf n).map (fun c => c.toNat - 0x30)) = n := by
  obtain ⟨ds, hds, hlt, hvalue⟩ := exists_digitsOf n
  have hdigit : ∀ d < 10, (digitChar d).toNat - 0x30 = d := by decide
  rw [hds, List.map_map]
  have hmap : ds.map ((fun c => c.toNat - 0x30) ∘ digitChar) = ds :=
    (List.map_congr_left (fun d hd => hdigit d (hlt d hd))).trans (List.map_id' ds)
  rw [hmap, hvalue]

theorem digitsOf_ne_nil (n : Nat) : digitsOf n ≠ [] := by
  obtain ⟨ds, hds, -, hvalue⟩ := exists_digitsOf n
  unfold digitsOf at hds ⊢
  by_cases hn : n = 0
  · simp [hn]
  · rw [if_neg hn] at hds ⊢
    rw [hds]
    rintro hnil
    obtain rfl := List.map_eq_nil_iff.1 hnil
    exact hn hvalue.symm

theorem digitChar_inj : ∀ d < 10, ∀ d' < 10, digitChar d = digitChar d' → d = d' := by decide

def Unpadded (ds : List Nat) : Prop := ds = [0] ∨ ds.head? ≠ some 0

theorem exists_prependDigits_eq_cons {n : Nat} (hn : n ≠ 0) (acc : List Char) :
    ∃ d rest, prependDigits n acc = digitChar d :: rest ∧ d ≠ 0 ∧ d < 10 := by
  induction n using Nat.strongRecOn generalizing acc with
  | ind n ih =>
      rw [prependDigits, dif_neg hn]
      by_cases hsmall : n / 10 = 0
      · rw [hsmall, prependDigits, dif_pos rfl]
        exact ⟨n % 10, acc, rfl, by omega, Nat.mod_lt n (by decide)⟩
      · exact ih (n / 10) (Nat.div_lt_self (Nat.pos_of_ne_zero hn) (by decide)) hsmall _

theorem unpadded_of_digitsOf {n : Nat} {ds : List Nat} (h : digitsOf n = ds.map digitChar)
    (hlt : ∀ d ∈ ds, d < 10) : Unpadded ds := by
  unfold digitsOf at h
  by_cases hn : n = 0
  · rw [if_pos hn] at h
    obtain ⟨d, hd, hzero⟩ := List.map_eq_singleton_iff.1 h.symm
    rw [hd, List.forall_mem_singleton] at hlt
    exact .inl (hd.trans (congrArg (fun d => [d]) (digitChar_inj d hlt 0 (by decide) hzero)))
  · obtain ⟨d, rest, hcons, hne, hd⟩ := exists_prependDigits_eq_cons hn []
    rw [if_neg hn, hcons] at h
    obtain ⟨d', ds, rfl, hchar, -⟩ := List.map_eq_cons_iff.1 h.symm
    refine .inr (fun hzero => hne ?_)
    obtain rfl := Option.some.inj hzero
    exact digitChar_inj d hd 0 (by decide) hchar.symm

theorem lt_ten_of_mem_zeros {d k : Nat} (h : d ∈ List.replicate k 0) : d < 10 := by
  rw [List.eq_of_mem_replicate h]
  decide

theorem exists_padDigits (width n : Nat) :
    ∃ ds : List Nat, padDigits width (digitsOf n) = ds.map digitChar ∧ (∀ d ∈ ds, d < 10) ∧
      digitsValue ds = n ∧ ds ≠ [] ∧ width ≤ ds.length := by
  obtain ⟨ds, hds, hlt, hvalue⟩ := exists_digitsOf n
  have hne : ds ≠ [] := by
    rintro rfl
    exact digitsOf_ne_nil n hds
  refine ⟨List.replicate (width - ds.length) 0 ++ ds, ?_, fun d hd => ?_, ?_, ?_, ?_⟩
  · rw [hds, padDigits, List.length_map, List.map_append, List.map_replicate]
    rfl
  · exact (List.mem_append.1 hd).elim lt_ten_of_mem_zeros (hlt d)
  · rw [digitsValue_replicate_append, hvalue]
  · exact List.append_ne_nil_of_right_ne_nil _ hne
  · rw [List.length_append, List.length_replicate]
    omega

/-- A ratio with some decimal places: the digits of the ratio rounded to them, with a point. -/
theorem exists_fixedRatio {places : Nat} (hplaces : places ≠ 0) (num den : Nat) :
    ∃ whole fraction : List Nat,
      fixedRatio places num den = whole.map digitChar ++ '.' :: fraction.map digitChar ∧
      (∀ d ∈ whole, d < 10) ∧ (∀ d ∈ fraction, d < 10) ∧ whole ≠ [] ∧ fraction.length = places ∧
      digitsValue (whole ++ fraction) = Binary.roundHalfEven (num * tenPow places) den := by
  unfold fixedRatio
  generalize Binary.roundHalfEven (num * tenPow places) den = r
  obtain ⟨all, hall, hdigits, hvalue, -, hlength⟩ := exists_padDigits (places + 1) r
  refine ⟨all.take (all.length - places), all.drop (all.length - places), ?_,
    fun d hd => hdigits d (List.mem_of_mem_take hd), fun d hd => hdigits d (List.mem_of_mem_drop hd),
    ?_, ?_, ?_⟩
  · simp only
    rw [if_neg hplaces, hall, List.length_map, List.map_take, List.map_drop]
  · intro hnil
    have hzero := congrArg List.length hnil
    rw [List.length_take, List.length_nil] at hzero
    omega
  · rw [List.length_drop]
    omega
  · rw [List.take_append_drop, hvalue]

/-! ### Numerals -/

namespace Numeral

theorem spanDigits_map_append {ds : List Nat} (h : ∀ d ∈ ds, d < 10) {rest : List Char}
    (hrest : spanDigits rest = ([], rest)) :
    spanDigits (ds.map digitChar ++ rest) = (ds, rest) := by
  induction ds with
  | nil => exact hrest
  | cons d ds ih =>
      rw [List.forall_mem_cons] at h
      rw [List.map_cons, List.cons_append, spanDigits, digitValue?_digitChar d h.1, ih h.2]

variable {whole fraction : List Nat}

theorem spanSign_map_append (h : ∀ d ∈ whole, d < 10) (hwhole : whole ≠ []) (rest : List Char) :
    spanSign (whole.map digitChar ++ rest) = (false, whole.map digitChar ++ rest) := by
  obtain ⟨d, ds, rfl⟩ := List.exists_cons_of_ne_nil hwhole
  have hdigit : ∀ d < 10, digitChar d ≠ '-' ∧ digitChar d ≠ '+' := by decide
  obtain ⟨hminus, hplus⟩ := hdigit d (h d List.mem_cons_self)
  rw [List.map_cons, List.cons_append, spanSign]
  · exact fun s hs => hminus (List.cons.inj hs).1
  · exact fun s hs => hplus (List.cons.inj hs).1

def fixed (negative : Bool) (whole fraction : List Nat) : List Char :=
  (if negative then ['-'] else []) ++ (whole.map digitChar ++ '.' :: fraction.map digitChar)

theorem spanSign_fixed (h : ∀ d ∈ whole, d < 10) (hwhole : whole ≠ []) (negative : Bool) :
    spanSign (fixed negative whole fraction) =
      (negative, whole.map digitChar ++ '.' :: fraction.map digitChar) := by
  cases negative with
  | false => exact spanSign_map_append h hwhole _
  | true => rfl

theorem read?_fixed (hwhole : ∀ d ∈ whole, d < 10) (hfraction : ∀ d ∈ fraction, d < 10)
    (hne : whole ≠ []) (negative : Bool) :
    read? (fixed negative whole fraction) = some ⟨negative, whole, fraction, 0⟩ := by
  have hpoint : spanDigits ('.' :: fraction.map digitChar) = ([], '.' :: fraction.map digitChar) := rfl
  have hend : spanDigits (fraction.map digitChar) = (fraction, []) := by
    have h : spanDigits (fraction.map digitChar ++ []) = (fraction, []) :=
      spanDigits_map_append hfraction rfl
    rwa [List.append_nil] at h
  unfold read?
  rw [spanSign_fixed hwhole hne]
  simp only [spanDigits_map_append hwhole hpoint, hend]
  rw [if_neg (by simp [hne])]
  rfl

end Numeral

namespace Decimal

theorem dropWord?_of_head_ne {a c : Char} (h : (a == c) = false) {w s : List Char} :
    dropWord? (a :: w) (c :: s) = none := by
  unfold dropWord?
  rw [List.isPrefixOf, h, Bool.false_and, if_neg Bool.false_ne_true]

/-- What begins with a digit behind its sign and has neither blanks nor underscores is read as a
numeral, since no name starts with a digit. -/
theorem ofChars_of_read? {s rest : List Char} {negative : Bool} {d : Nat} {n : Numeral}
    (hplain : ∀ c ∈ s, isBlank c = false ∧ c ≠ '_') (hd : d < 10)
    (hsign : Numeral.spanSign s = (negative, digitChar d :: rest))
    (hread : Numeral.read? s = some n) : ofChars s = ofNumeral n := by
  have htrimmed : (trimmed s).filter (· != '_') = s := by
    rw [trimmed, trimmedOf_of_forall (fun c hc => (hplain c hc).1), List.filter_eq_self]
    exact fun c hc => bne_iff_ne.2 (hplain c hc).2
  have hletter : ∀ d < 10, (digitChar d).toLower = digitChar d ∧ digitChar d ≠ 'i' ∧
      ('n' == digitChar d) = false ∧ ('s' == digitChar d) = false := by decide
  obtain ⟨hlower, hi, hn, hs⟩ := hletter d hd
  have hname : lowerAscii (digitChar d :: rest) = digitChar d :: lowerAscii rest := by
    unfold lowerAscii
    rw [List.map_cons, hlower]
  have hinf : ¬ (digitChar d :: lowerAscii rest = "inf".toList ∨
      digitChar d :: lowerAscii rest = "infinity".toList) := by
    rintro (h | h) <;> exact hi (List.cons.inj h).1
  have hnan : dropWord? "nan".toList (digitChar d :: lowerAscii rest) = none :=
    dropWord?_of_head_ne hn
  have hsnan : dropWord? "snan".toList (digitChar d :: lowerAscii rest) = none :=
    dropWord?_of_head_ne hs
  unfold ofChars
  simp only [htrimmed, hsign, hname, if_neg hinf, hread]
  rw [hnan, hsnan]

section

variable {whole fraction : List Nat} (hwhole : ∀ d ∈ whole, d < 10)
  (hfraction : ∀ d ∈ fraction, d < 10)
include hwhole hfraction

theorem mem_fixed {negative : Bool} {c : Char} (hc : c ∈ Numeral.fixed negative whole fraction) :
    c = '-' ∨ c = '.' ∨ ∃ d < 10, c = digitChar d := by
  unfold Numeral.fixed at hc
  rcases List.mem_append.1 hc with hc | hc
  · cases negative with
    | false => simp at hc
    | true => exact .inl (List.mem_singleton.1 hc)
  · rcases List.mem_append.1 hc with hc | hc
    · obtain ⟨d, hd, rfl⟩ := List.mem_map.1 hc
      exact .inr (.inr ⟨d, hwhole d hd, rfl⟩)
    · rcases List.mem_cons.1 hc with rfl | hc
      · exact .inr (.inl rfl)
      · obtain ⟨d, hd, rfl⟩ := List.mem_map.1 hc
        exact .inr (.inr ⟨d, hfraction d hd, rfl⟩)

theorem not_isBlank_of_mem_fixed {negative : Bool} {c : Char}
    (hc : c ∈ Numeral.fixed negative whole fraction) : isBlank c = false ∧ c ≠ '_' := by
  have hdigit : ∀ d < 10, isBlank (digitChar d) = false ∧ digitChar d ≠ '_' := by decide
  rcases mem_fixed hwhole hfraction hc with rfl | rfl | ⟨d, hd, rfl⟩
  · decide
  · decide
  · exact hdigit d hd

/-- A number with a point is read with as many places as there are digits behind the point. -/
theorem ofChars_fixed (hne : whole ≠ []) (negative : Bool) :
    ofChars (Numeral.fixed negative whole fraction) = ofNumeral ⟨negative, whole, fraction, 0⟩ := by
  obtain ⟨d, ds, rfl⟩ := List.exists_cons_of_ne_nil hne
  exact ofChars_of_read? (fun c hc => not_isBlank_of_mem_fixed hwhole hfraction hc)
    (hwhole d List.mem_cons_self) (Numeral.spanSign_fixed hwhole hne negative)
    (Numeral.read?_fixed hwhole hfraction hne negative)

end

theorem read?_ofList (s : List Char) :
    Decimal.read? (Text.ofString (String.ofList s)) = (ofChars s).toOption := by
  unfold Decimal.read? Decimal.read
  rw [Text.ofString, String.toList_ofList, Text.chars?_map_char]

end Decimal

end Appraisal
