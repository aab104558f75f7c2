import Appraisal.Datum.Identifier
import Appraisal.Proofs.Decimal.Double
import Appraisal.Proofs.Ledger.Selection

/-!
# What comes back from storage

Amounts are kept as doubles, while their column declares thirty-eight digits, nine of them behind the
point. Amounts below `2 ^ 23` and amounts that are doubles come back as they were; others come back with
the error of a double. All else of a posting comes back unchanged. A scope is taken row by row, so what
holds of one row holds of all that are found after it. Identifiers are kept as texts and come back as
they were. The main statements: `exists_select_add` and `read_uuidText`.
-/

namespace Appraisal

open Outcome Journaled Decimal Text

/-! ### Identifiers -/

namespace Identifier

theorem without_of_not_mem {c : Letter} {word s : List Letter} (h : c ∉ s) :
    without (c :: word) 0 s = s := by
  induction s with
  | nil => rfl
  | cons l s ih =>
      rw [List.mem_cons, not_or] at h
      rw [without]
      have hword : (c :: word).isPrefixOf (l :: s) = false := by
        simp [List.isPrefixOf, h.1]
      simp only [hword, Bool.false_eq_true, if_false, ih h.2]

theorem digits?_hex_append (width n m : Nat) (s : List Char) :
    digits? m (hex width n ++ s) = digits? (m * 16 ^ width + n % 16 ^ width) s := by
  have hdigit {d : Nat} (hd : d < 16) (m : Nat) (s : List Char) :
      digits? m (hexDigit d :: s) = digits? (16 * m + d) s := by
    have hall : ∀ d < 16, hexDigit d ≠ '_' ∧ digit? (hexDigit d) = some d := by decide
    obtain ⟨hne, hvalue⟩ := hall d hd
    rw [digits?, hvalue]
    · rfl
    · exact fun _ _ h => (hne h).elim
  induction width generalizing n s with
  | zero => simp [hex, Nat.mod_one]
  | succ width ih =>
      have hmod : n % 16 ^ (width + 1) = 16 * (n / 16 % 16 ^ width) + n % 16 := by
        rw [Nat.pow_succ', Nat.mod_mul, Nat.add_comm]
      rw [hex, List.append_assoc, ih, List.singleton_append, hdigit (Nat.mod_lt _ (by decide)), hmod]
      congr 1
      ring

theorem filter_hyphenated {cs : List Char} (h : '-' ∉ cs) :
    (Datum.hyphenated cs).filter (· ≠ '-') = cs := by
  have hkept {s : List Char} (hs : s ⊆ cs) : s.filter (· ≠ '-') = s :=
    List.filter_eq_self.2 (fun c hc => by simpa using fun heq : c = '-' => h (heq ▸ hs hc))
  have hgroup {s : List Char} (hs : s ⊆ cs) (t : List Char) :
      (s ++ '-' :: t).filter (· ≠ '-') = s ++ t.filter (· ≠ '-') := by
    rw [List.filter_append, hkept hs, List.filter_cons_of_neg (by simp)]
  have hmiddle (i : Nat) : (cs.drop i).take 4 ⊆ cs :=
    ((List.take_sublist 4 _).trans (List.drop_sublist i cs)).subset
  have hjoin (i : Nat) : (cs.drop i).take 4 ++ cs.drop (i + 4) = cs.drop i := by
    rw [← List.drop_drop, List.take_append_drop]
  unfold Datum.hyphenated
  simp only [List.append_assoc, List.cons_append]
  rw [hgroup (List.take_sublist 8 cs).subset, hgroup (hmiddle 8), hgroup (hmiddle 12),
    hgroup (hmiddle 16), hkept (List.drop_sublist 20 cs).subset, hjoin 16, hjoin 12, hjoin 8,
    List.take_append_drop]

theorem spanSign_of_not_mem {s : List Char} (h : '-' ∉ s ∧ '+' ∉ s) :
    Numeral.spanSign s = (false, s) := by
  unfold Numeral.spanSign
  split
  · exact absurd List.mem_cons_self h.1
  · exact absurd List.mem_cons_self h.2
  · rfl

theorem dropMark_of_not_mem {s : List Char} (h : 'x' ∉ s ∧ 'X' ∉ s) : dropMark s = s := by
  have hmark {c : Char} (hc : c ∈ s) : (c = 'x' || c = 'X') = false := by
    rw [Bool.or_eq_false_iff, decide_eq_false_iff_not, decide_eq_false_iff_not]
    exact ⟨fun heq => h.1 (heq ▸ hc), fun heq => h.2 (heq ▸ hc)⟩
  unfold dropMark
  split
  · rw [hmark (by simp)]
    rfl
  · rw [hmark (by simp)]
    rfl
  · rfl

theorem readHex?_hex {width n : Nat} (hwidth : width ≠ 0) (h : n < 16 ^ width) :
    readHex? (hex width n) = some n := by
  have hdigit : ∀ d < 16, isMargin (hexDigit d) = false ∧
      hexDigit d ∉ ['-', '+', 'x', 'X', '_'] := by decide
  have hall (c : Char) (hc : c ∈ hex width n) :
      isMargin c = false ∧ c ∉ ['-', '+', 'x', 'X', '_'] := by
    obtain ⟨d, hd, rfl⟩ := exists_hexDigit_of_mem_hex hc
    exact hdigit d hd
  have hother (c : Char) (hc : c ∈ ['-', '+', 'x', 'X', '_']) : c ∉ hex width n :=
    fun hmem => (hall c hmem).2 hc
  have hvalue := digits?_hex_append width n 0 []
  rw [List.append_nil, Nat.zero_mul, Nat.zero_add, Nat.mod_eq_of_lt h] at hvalue
  unfold readHex?
  rw [trimmedOf_of_forall (fun c hc => (hall c hc).1),
    spanSign_of_not_mem ⟨hother _ (by simp), hother _ (by simp)⟩]
  dsimp only
  rw [dropMark_of_not_mem ⟨hother _ (by simp), hother _ (by simp)⟩]
  split
  · rename_i hnil
    exact absurd (by rw [← length_hex width n, hnil]; rfl) hwidth
  · rename_i hcons
    exact absurd (hcons ▸ List.mem_cons_self) (hother '_' (by simp))
  · rw [hvalue]
    rfl

theorem body_uuidText (n : Nat) : body (Datum.uuidText n) = (hex 32 n).map .char := by
  have hdigit : ∀ d < 16, hexDigit d ∉ ['-', 'u', '\x7b', '\x7d'] := by decide
  have hother (c : Char) (hc : c ∈ ['-', 'u', '\x7b', '\x7d']) : c ∉ hex 32 n := by
    intro hmem
    obtain ⟨d, hd, rfl⟩ := exists_hexDigit_of_mem_hex hmem
    exact hdigit d hd hc
  have hfilter := filter_hyphenated (hother '-' (by simp))
  have hgrouped (c : Char) (hc : c ∈ ['u', '\x7b', '\x7d']) :
      c ∉ Datum.hyphenated (hex 32 n) := by
    intro hmem
    have hne : c ≠ '-' := by
      rintro rfl
      exact absurd hc (by decide)
    exact hother c (List.mem_cons_of_mem _ hc)
      (hfilter ▸ List.mem_filter.2 ⟨hmem, decide_eq_true hne⟩)
  have hletters : (Datum.uuidText n : Text).toList = (Datum.hyphenated (hex 32 n)).map .char := by
    rw [Datum.uuidText, ofString, String.toList_ofList]
  have hscheme : Letter.char 'u' ∉ (Datum.hyphenated (hex 32 n)).map .char := by
    simpa using hgrouped 'u' (by simp)
  unfold body
  rw [hletters, withoutWord, withoutWord,
    show ("urn:" : Text).toList = .char 'u' :: [.char 'r', .char 'n', .char ':'] from rfl,
    show ("uuid:" : Text).toList = .char 'u' :: [.char 'u', .char 'i', .char 'd', .char ':'] from rfl,
    without_of_not_mem hscheme, without_of_not_mem hscheme]
  dsimp only
  rw [trimmedOf_of_forall, List.filter_map]
  · refine congrArg (List.map Letter.char) (Eq.trans (List.filter_congr fun c _ => ?_) hfilter)
    by_cases hc : c = '-'
    · simp [hc]
    · simp [hc]
  · intro l hl
    obtain ⟨c, hc, rfl⟩ := List.mem_map.1 hl
    have hbrace (b : Char) (hb : b ∈ ['u', '\x7b', '\x7d']) : c ≠ b :=
      fun heq => hgrouped b hb (heq ▸ hc)
    simp [hbrace '\x7b' (by simp), hbrace '\x7d' (by simp)]

/-- The column of identifiers gives back what is written to it. -/
theorem read_uuidText {n : Nat} (h : n < 2 ^ 128) : read (Datum.uuidText n) = .ok n := by
  have hhex : readHex? (hex 32 n) = some n := readHex?_hex (by decide) (by norm_num at h ⊢; exact h)
  unfold read
  rw [body_uuidText, if_neg (by rw [List.length_map, length_hex]; decide), chars?_map_char,
    Option.bind_some, hhex]
  simp

end Identifier

namespace Row

/-- The decimal has at most nine digits behind the point, and thirty-eight in front of it. -/
structure Fits (d : Decimal) : Prop where
  finite : d.isFinite = true
  places : IsMultiple (-9) d.toRat
  bound : |d.toRat| < 10 ^ 38

/-- What comes back for a decimal: nine places and at most the error of a double and of rounding to
these places. What a double tells apart from its neighbours in nine places comes back as it was. -/
structure Kept (d kept : Decimal) : Prop where
  finite : kept.isFinite = true
  places : IsMultiple (-9) kept.toRat
  error : |kept.toRat - d.toRat| ≤ |d.toRat| / 2 ^ 53 + 1 / (2 * 10 ^ 9)
  equal_of_small : |d.toRat| < 2 ^ 23 → kept.equal d = .ok true
  equal_of_double : ∀ (k : Nat) (q : Int), Binary.leastExponent ≤ q → k < 2 ^ 53 →
    |d.toRat| = k * 2 ^ q → kept.equal d = .ok true

/-- A numeral with at most nine places fits. -/
theorem fits_of_exponent {s : Bool} {c : Nat} {e : Int} (h : -9 ≤ e)
    (hbound : (c : ℚ) * 10 ^ e < 10 ^ 38) : Fits (.finite s c e) :=
  ⟨rfl, isMultiple_number s c h, (abs_number s c e).trans_lt hbound⟩

/-- Rounding to nine places finds the number again from less than half a unit away. -/
theorem eq_of_near {r units : Nat} {v : ℚ} (hround : |(r : ℚ) - v * 10 ^ 9| ≤ 1 / 2)
    (hnear : |v - units / 10 ^ 9| < 1 / (2 * 10 ^ 9)) : r = units := by
  have hr := abs_le.1 hround
  have hv := abs_lt.1 hnear
  refine Binary.eq_of_abs_sub_lt_one (abs_lt.2 ⟨?_, ?_⟩)
  · linarith
  · linarith

/-- The text that a finite double is kept as; a zero loses its sign. -/
theorem exists_read?_kept {x : Float} {s : Bool} {bits : Nat} (hbits : bits < Binary.infiniteBits)
    (hx : x = Binary.signed s bits) (hhigh : (Binary.ofFloat x).magnitude < 10 ^ (200 : Int)) :
    ∃ s' r, Decimal.read? (fixedText places (if x == 0 then 0 else x)) = some (.finite s' r (-9)) ∧
      |(r : ℚ) - (Binary.ofFloat x).magnitude * 10 ^ 9| ≤ 1 / 2 ∧ (s' = s ∨ r = 0) := by
  by_cases hzero : (x == 0) = true
  · have hfinite : Binary.ofFloat 0 = .finite false 0 (-1074) := rfl
    obtain ⟨r, hread, hround⟩ :=
      exists_read?_fixedText hfinite (show places ≠ 0 by decide) (by decide) (by simp)
    have hr : r = 0 := by
      rw [Nat.cast_zero, zero_mul, zero_mul, sub_zero, Nat.abs_cast] at hround
      have hlt : (r : ℚ) < 1 := by linarith
      exact Nat.lt_one_iff.1 (by exact_mod_cast hlt)
    have hmagnitude : (Binary.ofFloat x).magnitude = 0 := by
      subst hx
      rw [Binary.eq_zero_of_beq_zero hbits hzero]
      exact Binary.magnitude_signed_zero s
    rw [if_pos hzero, hmagnitude, zero_mul]
    refine ⟨false, r, hread, ?_, .inr hr⟩
    rw [hr]
    norm_num
  · obtain ⟨m, q, hfinite⟩ : ∃ m q, Binary.ofFloat (Binary.signed s bits) = .finite s m q :=
      Binary.exists_ofFloat_signed hbits
    rw [← hx] at hfinite
    rw [hfinite] at hhigh
    obtain ⟨r, hread, hround⟩ :=
      exists_read?_fixedText hfinite (show places ≠ 0 by decide) (by decide) hhigh
    rw [if_neg hzero, hfinite]
    exact ⟨s, r, hread, hround, .inl rfl⟩

/-- A decimal comes back with the nine places of the double nearest to it. -/
theorem exists_decimal_nearest {s : Bool} {c : Nat} {e : Int}
    (hlow : c = 0 ∨ (10 : ℚ) ^ (-200 : Int) ≤ c * 10 ^ e)
    (hhigh : (c : ℚ) * 10 ^ e < 10 ^ (100 : Int)) :
    ∃ x s' r, Binary.IsNearest s (c * 10 ^ e) x ∧ decimal (.finite s c e) = .ok (.finite s' r (-9)) ∧
      |(r : ℚ) - (Binary.ofFloat x).magnitude * 10 ^ 9| ≤ 1 / 2 ∧ (s' = s ∨ r = 0) := by
  have hlimit : (10 : ℚ) ^ (100 : Int) ≤ 10 ^ (200 : Int) :=
    zpow_le_zpow_right₀ (by norm_num) (by norm_num)
  obtain ⟨x, hfloat, hnearest⟩ := exists_toFloat? s hlow (hhigh.trans_le hlimit)
  have hrelative : |(Binary.ofFloat x).magnitude - c * 10 ^ e| ≤ c * 10 ^ e / 2 ^ 53 := by
    refine hnearest.relative_error (hlow.imp (fun hc => ?_) zpow_le_ten_zpow.trans)
    rw [hc, Nat.cast_zero, zero_mul]
  have hmagnitude : (Binary.ofFloat x).magnitude < 10 ^ (200 : Int) := by
    have htwice : (2 : ℚ) * 10 ^ (100 : Int) ≤ 10 ^ (200 : Int) := by norm_num
    have habove := (abs_le.1 hrelative).2
    linarith
  obtain ⟨bits, hbits, hx⟩ := hnearest.signed
  obtain ⟨s', r, hread, hround, hsign⟩ := exists_read?_kept hbits hx hmagnitude
  refine ⟨x, s', r, hnearest, ?_, hround, hsign⟩
  have hnan : x.isNaN = false := by
    rw [hx]
    exact Binary.isNaN_signed hbits
  unfold decimal
  rw [hfloat]
  dsimp only
  rw [if_neg (by rw [hnan]; exact Bool.false_ne_true), hread]
  rfl

theorem abs_number_sub (s : Bool) (c₁ c₂ : Nat) (e₁ e₂ : Int) :
    |number s c₁ e₁ - number s c₂ e₂| = |(c₁ : ℚ) * 10 ^ e₁ - c₂ * 10 ^ e₂| := by
  cases s with
  | false => simp [number]
  | true =>
      rw [number_true, number_true, neg_sub_neg, abs_sub_comm]
      simp [number]

/-- A number that fits is far from both ends of the range of doubles. -/
theorem Fits.bounds {s : Bool} {c : Nat} {e : Int} (h : Fits (.finite s c e)) :
    (c = 0 ∨ (10 : ℚ) ^ (-200 : Int) ≤ c * 10 ^ e) ∧ (c : ℚ) * 10 ^ e < 10 ^ (100 : Int) := by
  rw [← abs_number s]
  constructor
  · by_cases hc : c = 0
    · exact .inl hc
    · right
      calc (10 : ℚ) ^ (-200 : Int) ≤ 10 ^ (-9 : Int) :=
            zpow_le_zpow_right₀ (by norm_num) (by norm_num)
        _ ≤ |number s c e| := h.places.le_abs (number_eq_zero_iff.not.2 hc)
  · exact h.bound.trans (by norm_num)

/-- A number with nine places comes back as it was from less than half a unit away. -/
theorem equal_of_near {s s' : Bool} {c r : Nat} {e : Int} {v : ℚ}
    (hkept : (Decimal.finite s' r (-9)).HasValue (number s r (-9)))
    (hplaces : IsMultiple (-9) (number s c e)) (hround : |(r : ℚ) - v * 10 ^ 9| ≤ 1 / 2)
    (hnear : |v - c * 10 ^ e| < 1 / (2 * 10 ^ 9)) :
    (Decimal.finite s' r (-9)).equal (.finite s c e) = .ok true := by
  obtain ⟨units, hunits⟩ := hplaces.exists_nat
  rw [hunits, mul_billionth] at hnear
  rw [equal_eq_true_iff hkept (hasValue_finite s c e), eq_of_near hround hnear]
  have hmagnitude : number false units (-9) = number false c e := hunits.symm
  cases s with
  | false => exact hmagnitude
  | true => rw [number_true, number_true, hmagnitude]

/-- A decimal that fits comes back, and as its nearest double tells it. -/
theorem exists_kept {d : Decimal} (h : Fits d) : ∃ kept, decimal d = .ok kept ∧ Kept d kept := by
  obtain ⟨s, c, e, rfl, -⟩ := HasValue.exists_finite ⟨h.finite, rfl⟩
  obtain ⟨hlow, hhigh⟩ := h.bounds
  obtain ⟨x, s', r, hnearest, hdecimal, hround, hsign⟩ := exists_decimal_nearest (s := s) hlow hhigh
  have hrelative := hnearest.relative_error (hlow.imp (fun hc => by simp [hc]) zpow_le_ten_zpow.trans)
  -- a zero comes back without its sign, which its number does not have
  have hkept : (Decimal.finite s' r (-9)).HasValue (number s r (-9)) := by
    rcases hsign with rfl | rfl
    · exact hasValue_finite s' r (-9)
    · exact ⟨rfl, (number_zero s' _).trans (number_zero s _).symm⟩
  have hd : (Decimal.finite s c e).toRat = number s c e := rfl
  have hequal (hnear : |(Binary.ofFloat x).magnitude - c * 10 ^ e| < 1 / (2 * 10 ^ 9)) :=
    equal_of_near hkept h.places hround hnear
  refine ⟨_, hdecimal, rfl, ?_, ?_, fun hsmall => hequal ?_, fun k q hq hk hdouble => hequal ?_⟩
  · rw [hkept.2]
    exact isMultiple_number s r le_rfl
  · rw [hkept.2, hd, abs_number_sub, abs_number, mul_billionth]
    obtain ⟨hround₁, hround₂⟩ := abs_le.1 hround
    obtain ⟨hrelative₁, hrelative₂⟩ := abs_le.1 hrelative
    rw [abs_le]
    constructor
    · linarith
    · linarith
  · rw [hd, abs_number] at hsmall
    refine (hnearest.error (-30) (by decide) (hsmall.trans_eq (by norm_num))).trans_lt ?_
    norm_num
  · rw [hd, abs_number] at hdouble
    have hlt : (c : ℚ) * 10 ^ e < 2 ^ (q + 53) := by
      have hk' : (k : ℚ) < 2 ^ 53 := by exact_mod_cast hk
      rw [hdouble, zpow_add₀ (by norm_num), mul_comm]
      exact mul_lt_mul_of_pos_left hk' (Binary.two_zpow_pos q)
    rw [hnearest.exact q hq hlt ⟨k, hdouble⟩, sub_self, abs_zero]
    norm_num

theorem Fits.isSignaling {d : Decimal} (h : Fits d) : d.isSignaling = false := by
  obtain ⟨s, c, e, rfl, -⟩ := HasValue.exists_finite ⟨h.finite, rfl⟩
  rfl

theorem text_eq_ok_iff {s t : Text} : text (.text s) = .ok t ↔ s = t ∧ s.IsPlain := by
  constructor
  · intro h
    obtain ⟨rfl, hletters⟩ := eq_of_encoded h
    refine ⟨rfl, List.any_eq_false.2 (fun l hl => ?_)⟩
    rw [hletters l hl]
    exact Bool.false_ne_true
  · rintro ⟨rfl, hplain⟩
    rw [text, encoded, hplain]
    rfl

end Row

/-! ### Postings -/

namespace Posting

structure Fits (p : Posting) : Prop where
  amount : Row.Fits p.amount
  quantity : Row.Fits p.quantity

structure IsPlain (p : Posting) : Prop where
  account : p.account.IsPlain
  note : p.note.IsPlain
  transactionNote : p.transactionNote.IsPlain
  commodity : p.commodity.IsPlain

/-- What comes back for a posting: its amounts as they are kept, and all else unchanged. -/
structure Restores (p kept : Posting) : Prop where
  amount : Row.Kept p.amount kept.amount
  quantity : Row.Kept p.quantity kept.quantity
  account : kept.account = p.account
  date : kept.date = p.date
  note : kept.note = p.note
  transactionNote : kept.transactionNote = p.transactionNote
  commodity : kept.commodity = p.commodity

theorem Fits.isUnstorable {p : Posting} (h : p.Fits) : p.draft.isUnstorable = false := by
  rw [Draft.isUnstorable, Bool.or_eq_false_iff]
  exact ⟨h.amount.isSignaling, h.quantity.isSignaling⟩

theorem Fits.exists_ofDraft {p : Posting} (h : p.Fits) (hplain : p.IsPlain) :
    ∃ kept, Row.ofDraft p.draft = .ok kept ∧ p.Restores kept := by
  obtain ⟨amount, hamount, hkept⟩ := Row.exists_kept h.amount
  obtain ⟨quantity, hquantity, hkept'⟩ := Row.exists_kept h.quantity
  refine ⟨⟨p.account, amount, p.date, quantity, p.note, p.transactionNote, p.commodity,
    p.account_ne⟩, ?_, hkept, hkept', rfl, rfl, rfl, rfl, rfl⟩
  unfold Row.ofDraft
  rw [if_neg (by rw [h.isUnstorable]; exact Bool.false_ne_true)]
  simp only [draft, Row.text_eq_ok_iff.2 ⟨rfl, hplain.account⟩,
    Row.text_eq_ok_iff.2 ⟨rfl, hplain.note⟩, Row.text_eq_ok_iff.2 ⟨rfl, hplain.transactionNote⟩,
    Row.text_eq_ok_iff.2 ⟨rfl, hplain.commodity⟩, hamount, hquantity, ok_bind,
    dif_neg p.account_ne]
  rfl

theorem Fits.isPlain_of_ofDraft {p kept : Posting} (h : p.Fits)
    (hrow : Row.ofDraft p.draft = .ok kept) : p.IsPlain := by
  unfold Row.ofDraft at hrow
  rw [if_neg (by rw [h.isUnstorable]; exact Bool.false_ne_true)] at hrow
  obtain ⟨account, haccount, hrow⟩ := bind_eq_ok_iff.1 hrow
  obtain ⟨note, hnote, hrow⟩ := bind_eq_ok_iff.1 hrow
  obtain ⟨transactionNote, htransactionNote, hrow⟩ := bind_eq_ok_iff.1 hrow
  obtain ⟨commodity, hcommodity, -⟩ := bind_eq_ok_iff.1 hrow
  exact ⟨(Row.text_eq_ok_iff.1 haccount).2, (Row.text_eq_ok_iff.1 hnote).2,
    (Row.text_eq_ok_iff.1 htransactionNote).2, (Row.text_eq_ok_iff.1 hcommodity).2⟩

end Posting

namespace LedgerStore

def scopeOf (ps : List Posting) : Scope := ps.map (fun p => .ok p.draft)

theorem commit_cons (rows : List Posting) (p : Posting) (ps : List Posting) :
    (ready rows).commit (scopeOf (p :: ps)) =
      Row.ofDraft p.draft >>= fun row => (ready (rows ++ [row])).commit (scopeOf ps) := by
  have hstep : (ready rows).commit (scopeOf (p :: ps)) =
      (ready rows).inserted p.draft >>= fun s => s.commit (scopeOf ps) := rfl
  rw [hstep, inserted, bind_assoc]
  rfl

/-- Each posting of a scope adds the row that comes back for it. -/
theorem exists_commit {ps : List Posting} (hfits : ∀ p ∈ ps, p.Fits) (hplain : ∀ p ∈ ps, p.IsPlain)
    (rows : List Posting) :
    ∃ kept, (ready rows).commit (scopeOf ps) = .ok (ready (rows ++ kept)) ∧
      List.Forall₂ Posting.Restores ps kept := by
  induction ps generalizing rows with
  | nil => exact ⟨[], by rw [List.append_nil]; rfl, .nil⟩
  | cons p ps ih =>
      rw [List.forall_mem_cons] at hfits hplain
      obtain ⟨row, hrow, hrestores⟩ := hfits.1.exists_ofDraft hplain.1
      obtain ⟨kept, hkept, hall⟩ := ih hfits.2 hplain.2 (rows ++ [row])
      refine ⟨row :: kept, ?_, .cons hrestores hall⟩
      rw [commit_cons, hrow, ok_bind, hkept, List.append_assoc, List.singleton_append]

theorem isPlain_of_commit {ps : List Posting} (hfits : ∀ p ∈ ps, p.Fits) {rows : List Posting}
    {s : LedgerStore} (h : (ready rows).commit (scopeOf ps) = .ok s) : ∀ p ∈ ps, p.IsPlain := by
  induction ps generalizing rows with
  | nil => exact List.forall_mem_nil _
  | cons p ps ih =>
      rw [List.forall_mem_cons] at hfits ⊢
      rw [commit_cons] at h
      obtain ⟨row, hrow, h⟩ := bind_eq_ok_iff.1 h
      exact ⟨hfits.1.isPlain_of_ofDraft hrow, ih hfits.2 h⟩

theorem yields_add {s : LedgerStore} (hopen : s.isOpen = true) (scope : Scope) :
    Yields (s.add scope) (s.commit scope) := by
  unfold add
  rw [if_pos hopen]
  refine (yields_note _ _ _ _ _).bind (g := fun _ => s.commit scope) (fun _ _ => ?_)
  cases s.commit scope with
  | ok s' => exact (yields_note _ _ _ _ _).bind (g := fun _ => .ok s') (fun _ _ => yields_pure _)
  | error e =>
      exact (yields_note _ _ _ _ _).bind (g := fun _ => .error e) (fun _ _ => yields_throw e)

theorem candidates_of_star (rows : List Posting) :
    candidates (AccountPattern.coarse "*") rows = sorted before rows := by
  unfold candidates
  rw [List.filter_eq_self.2]
  intro p _
  refine CoarseFilter.accepts_coarse ?_
  have hstar : ("*" : Text).toList.map AccountPattern.symbol = [.anyRun] := by decide
  rw [AccountPattern.accepts, hstar]
  exact Text.Wildcard.matchesAll_anyRun _

/-- Postings that fit are stored just if their texts have bytes, and are found again. Each comes back
with its amounts within the error of a double and with all else unchanged, beside the rows that were
there before. -/
theorem exists_select_add {ps : List Posting} (hfits : ∀ p ∈ ps, p.Fits) (rows : List Posting) :
    ((∃ s, Yields ((ready rows).add (scopeOf ps)) (.ok s)) ↔ ∀ p ∈ ps, p.IsPlain) ∧
    ((∀ p ∈ ps, p.IsPlain) → ∃ kept, List.Forall₂ Posting.Restores ps kept ∧
      Yields ((ready rows).add (scopeOf ps)) (.ok (ready (rows ++ kept))) ∧
      Yields (do (← (ready rows).add (scopeOf ps)).select "*") (.ok (sorted before (rows ++ kept))) ∧
      ∀ pattern, Takes (rows ++ kept) (AccountPattern.coarse pattern) →
        ∃ found, Yields (do (← (ready rows).add (scopeOf ps)).select pattern) (.ok found) ∧
          (AccountPattern.filter pattern found).Perm
            (AccountPattern.filter pattern rows ++ AccountPattern.filter pattern kept)) := by
  have hadd := yields_add (s := ready rows) rfl (scopeOf ps)
  refine ⟨⟨fun ⟨s, hs⟩ => isPlain_of_commit hfits (hadd.unique hs), fun hplain => ?_⟩,
    fun hplain => ?_⟩
  all_goals
    obtain ⟨kept, hcommit, hall⟩ := exists_commit hfits hplain rows
    rw [hcommit] at hadd
  · exact ⟨_, hadd⟩
  · have hselect (pattern : Text) (htakes : Takes (rows ++ kept) (AccountPattern.coarse pattern)) :
        Yields (do (← (ready rows).add (scopeOf ps)).select pattern)
          (.ok (candidates (AccountPattern.coarse pattern) (rows ++ kept))) := by
      refine hadd.bind (g := fun _ => .ok (candidates _ (rows ++ kept))) (fun s hs => ?_)
      obtain rfl := Except.ok.inj hs
      have hfound := yields_select (rows ++ kept) pattern
      rwa [filterOf_eq_ok_iff.2 ⟨rfl, htakes⟩] at hfound
    refine ⟨kept, hall, hadd, ?_, fun pattern htakes => ⟨_, hselect pattern htakes, ?_⟩⟩
    · rw [← candidates_of_star]
      exact hselect "*" ⟨"%", by decide, .inr (by decide)⟩
    · rw [filter_candidates]
      exact (perm_sorted before _).trans (.of_eq (List.filter_append _ _))

theorem exists_select_add_of_tenth :
    let p : Posting := ⟨"Loans:Asha", .finite false 1 (-1), .newYear2024, .one, "", "", "INR", by decide⟩
    p.Fits ∧ ∃ kept : Posting, Yields (do (← (ready []).add (scopeOf [p])).select "*") (.ok [kept]) ∧
      kept.account = p.account ∧ kept.amount.equal p.amount = .ok true := by
  intro p
  have hfits : p.Fits := ⟨Row.fits_of_exponent (by decide) (by norm_num),
    Row.fits_of_exponent (by decide) (by norm_num)⟩
  have hplain : p.IsPlain :=
    ⟨isPlain_ofString _, isPlain_ofString _, isPlain_ofString _, isPlain_ofString _⟩
  obtain ⟨-, hstored⟩ := exists_select_add (List.forall_mem_singleton.2 hfits) []
  obtain ⟨kept, hall, -, hselect, -⟩ := hstored (List.forall_mem_singleton.2 hplain)
  cases hall with
  | cons hrestores hnil =>
      cases hnil
      refine ⟨hfits, _, hselect, hrestores.account, hrestores.amount.equal_of_small ?_⟩
      rw [show p.amount.toRat = number false 1 (-1) from rfl, abs_number]
      norm_num

/-- The double nearest to an amount from `2 ^ 23` on can differ from it in the ninth place. -/
theorem not_equal_of_long_amount :
    let p : Posting :=
      ⟨"Loans:Asha", .finite false 100000003 (-1), .newYear2024, .one, "", "", "", by decide⟩
    p.Fits ∧ p.IsPlain ∧ ∃ kept : Posting,
      (do (← (← (← openNew).createTable).add (scopeOf [p])).select "Loans:*" :
        Journaled LedgerError (List Posting)).result = .ok [kept] ∧
        kept.amount = .finite false 10000000300000001 (-9) ∧
        kept.amount.equal p.amount = .ok false := by
  intro p
  have hfits : p.Fits := ⟨Row.fits_of_exponent (by decide) (by norm_num),
    Row.fits_of_exponent (by decide) (by norm_num)⟩
  have hplain : p.IsPlain :=
    ⟨isPlain_ofString _, isPlain_ofString _, isPlain_ofString _, isPlain_ofString _⟩
  have hrun : ((do (← (← (← openNew).createTable).add (scopeOf [p])).select "Loans:*" :
      Journaled LedgerError (List Posting)).run empty).1.toOption.map (·.map (·.amount)) =
        some [.finite false 10000000300000001 (-9)] := by decide +kernel
  obtain ⟨found, s', hfound, hamounts⟩ := exists_of_map_toOption hrun
  obtain ⟨kept, rfl, hkept⟩ := List.map_eq_singleton_iff.1 hamounts
  refine ⟨hfits, hplain, kept, congrArg Prod.fst hfound, hkept, ?_⟩
  rw [hkept]
  decide +kernel

end LedgerStore

end Appraisal
