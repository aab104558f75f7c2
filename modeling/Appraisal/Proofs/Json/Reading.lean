import Mathlib.Algebra.Group.Nat.Defs
import Mathlib.Data.List.Forall2
import Appraisal.Json.Reader
import Appraisal.Json.Writer
import Appraisal.Proofs.Outcome
import Appraisal.Proofs.Sorting
import Appraisal.Proofs.Text.Basic

/-!
# What is written is read back

What is written of texts, words, lists and mappings can be read in one way only: the reader gives back
what was written. A word ends where a delimiter stands, everything else whatever stands behind it.
Escapes are read letter by letter. A character beyond the first plane is written as two escaped
surrogates, so two surrogates of a text that make such a pair are not read back.
-/

namespace Appraisal

open Outcome

/-! ### Hexadecimal digits -/

namespace Text

theorem hexValue?_hexDigit {n : Nat} (h : n < 16) : hexValue? (hexDigit n) = some n := by
  have hall : ∀ i : Fin 16, hexValue? (hexDigit i) = some (i : Nat) := by decide
  exact hall ⟨n, h⟩

theorem foldlM_hex (width n start : Nat) :
    (hex width n).foldlM (fun n c => (hexValue? c).map (16 * n + ·)) start =
      some (start * 16 ^ width + n % 16 ^ width) := by
  induction width generalizing n with
  | zero => simp [hex, Nat.mod_one]
  | succ w ih =>
      have hdigit : hexValue? (hexDigit (n % 16)) = some (n % 16) :=
        hexValue?_hexDigit (Nat.mod_lt _ (by decide))
      have hmod : n % 16 ^ (w + 1) = 16 * (n / 16 % 16 ^ w) + n % 16 := by
        rw [Nat.pow_succ', Nat.mod_mul, Nat.add_comm]
      simp only [hex, List.foldlM_append, ih, List.foldlM_cons, List.foldlM_nil, hdigit, hmod]
      simp only [Option.bind_eq_bind, Option.bind_some, Option.map_some, Option.pure_def,
        Option.some.injEq]
      rw [Nat.pow_succ', Nat.mul_add, Nat.mul_left_comm]
      omega

theorem hexDigits?_hex {width n : Nat} (h : n < 16 ^ width) (rest : List Char) :
    hexDigits? width (hex width n ++ rest) = some (n, rest) := by
  have htake : (hex width n ++ rest).take width = hex width n :=
    List.take_left' (length_hex width n)
  have hdrop : (hex width n ++ rest).drop width = rest := List.drop_left' (length_hex width n)
  unfold hexDigits?
  rw [htake, hdrop, if_pos (length_hex width n), foldlM_hex, Nat.zero_mul, Nat.zero_add,
    Nat.mod_eq_of_lt h]
  rfl

/-- No two surrogates that make a pair follow each other. -/
def IsUnpaired (t : Text) : Prop :=
  t.toList.IsChain (fun l l' => Json.paired? l.code l'.code = none)

end Text

namespace Json

open Text

/-! ### Texts -/

def escapedUnit? : List Char → Option Nat
  | '\\' :: 'u' :: s => (hexDigits? 4 s).map Prod.fst
  | _ => none

theorem paired?_eq_none {high low : Nat}
    (h : high < 0xD800 ∨ 0xDC00 ≤ high ∨ low < 0xDC00 ∨ 0xE000 ≤ low) :
    paired? high low = none := by
  unfold paired?
  simp only [Bool.and_eq_true, decide_eq_true_eq, ite_eq_right_iff, reduceCtorEq, imp_false]
  omega

theorem paired?_eq_some {high low n : Nat} (hhigh : 0xD800 ≤ high ∧ high < 0xDC00)
    (hlow : 0xDC00 ≤ low ∧ low < 0xE000)
    (hn : 0x10000 + (high - 0xD800) * 0x400 + (low - 0xDC00) = n) :
    paired? high low = some (Char.ofNat n) := by
  unfold paired?
  rw [hn]
  simp only [hhigh, hlow, decide_true, Bool.and_self, if_true]

/-- A unit is read alone unless an escape follows that makes a pair with it. -/
theorem stringLetter?_unitEscape {n : Nat} {rest : List Char} (h : n < 0x10000)
    (hrest : ∀ low, escapedUnit? rest = some low → paired? n low = none) :
    stringLetter? (unitEscape n ++ rest) = some (.ofCode n, rest) := by
  have hunit : hexDigits? 4 (hex 4 n ++ rest) = some (n, rest) := hexDigits?_hex h rest
  simp only [unitEscape, List.cons_append, stringLetter?, hunit, Option.bind_eq_bind,
    Option.bind_some]
  split
  · rename_i t
    cases ht : hexDigits? 4 t with
    | none => rfl
    | some r =>
        have hnone : paired? n r.1 = none := hrest r.1 (by rw [escapedUnit?, ht]; rfl)
        dsimp only
        rw [hnone]
  · rfl

/-- The two escapes of a character beyond the first plane are read as that character. -/
theorem stringLetter?_pair {n : Nat} (hfirst : 0x10000 ≤ n) (hlast : n < 0x110000)
    (rest : List Char) :
    stringLetter? (codeEscape n ++ rest) = some (.char (Char.ofNat n), rest) := by
  have hescape : codeEscape n = unitEscape (0xD800 + (n - 0x10000) / 0x400) ++
      unitEscape (0xDC00 + (n - 0x10000) % 0x400) := if_neg (Nat.not_lt.2 hfirst)
  obtain ⟨high, hhigh⟩ : ∃ high, high = 0xD800 + (n - 0x10000) / 0x400 := ⟨_, rfl⟩
  obtain ⟨low, hlow⟩ : ∃ low, low = 0xDC00 + (n - 0x10000) % 0x400 := ⟨_, rfl⟩
  have hunits (unit : Nat) (hunit : unit < 0x10000) (s : List Char) :
      hexDigits? 4 (hex 4 unit ++ s) = some (unit, s) := hexDigits?_hex hunit s
  have hpaired : paired? high low = some (Char.ofNat n) :=
    paired?_eq_some (by omega) (by omega) (by omega)
  rw [hescape, ← hhigh, ← hlow]
  simp only [unitEscape, List.append_assoc, List.cons_append, stringLetter?,
    hunits high (by omega), hunits low (by omega), hpaired, Option.bind_eq_bind, Option.bind_some]

theorem stringLetter?_codeEscape {l : Letter} {rest : List Char}
    (hrest : ∀ low, escapedUnit? rest = some low → paired? l.code low = none) :
    stringLetter? (codeEscape l.code ++ rest) = some (l, rest) := by
  by_cases h : l.code < 0x10000
  · rw [codeEscape, if_pos h, stringLetter?_unitEscape h hrest, Letter.ofCode_code]
  · cases l with
    | surrogate i =>
        have hi := i.isLt
        simp only [Letter.code, Letter.firstSurrogate] at h
        omega
    | char c =>
        have hvalid : c.toNat < 0xD800 ∨ 0xDFFF < c.toNat ∧ c.toNat < 0x110000 := c.valid
        rw [Letter.code] at h ⊢
        rw [stringLetter?_pair (Nat.not_lt.1 h) (by omega), Char.ofNat_toNat]

theorem stringLetter?_escapedLetter {l : Letter} {rest : List Char}
    (hrest : ∀ low, escapedUnit? rest = some low → paired? l.code low = none) :
    stringLetter? (escapedLetter l ++ rest) = some (l, rest) := by
  cases l with
  | surrogate i => exact stringLetter?_codeEscape hrest
  | char c =>
      have hcontrol {n : Nat} (h : c.toNat = n) : Char.ofNat n = c := by rw [← h, Char.ofNat_toNat]
      simp only [escapedLetter]
      split_ifs with hquote hslash hline hreturn htab hback hfeed hprintable
      · rw [hquote]
        rfl
      · rw [hslash]
        rfl
      · rw [hline]
        rfl
      · rw [hreturn]
        rfl
      · rw [htab]
        rfl
      · rw [← hcontrol hback]
        rfl
      · rw [← hcontrol hfeed]
        rfl
      · have hshown : ¬ c.toNat < 0x20 := by
          simp only [Bool.and_eq_true, decide_eq_true_eq] at hprintable
          omega
        rw [List.singleton_append, stringLetter?.eq_def]
        split
        · simp_all
        · simp_all
        · simp_all
        · simp_all
      · exact stringLetter?_codeEscape hrest

theorem escapedUnit?_of_ne {c : Char} (hc : c ≠ '\\') (s : List Char) :
    escapedUnit? (c :: s) = none := by
  unfold escapedUnit?
  split
  · rename_i heq
    exact absurd (List.cons.inj heq).1 hc
  · rfl

/-- The written form of a letter is an escape of the letter or of the first half of its pair, or it
does not begin with an escape. -/
theorem escapedUnit?_escapedLetter {l : Letter} {s : List Char} {unit : Nat}
    (h : escapedUnit? (escapedLetter l ++ s) = some unit) : unit = l.code ∨ unit < 0xDC00 := by
  have hcode (n : Nat) (hn : escapedUnit? (codeEscape n ++ s) = some unit) (hlast : n < 0x110000) :
      unit = n ∨ unit < 0xDC00 := by
    have hunit (u : Nat) (hu : u < 0x10000) (t : List Char) :
        escapedUnit? (unitEscape u ++ t) = some u := by
      rw [unitEscape, List.cons_append, List.cons_append, escapedUnit?, hexDigits?_hex hu]
      rfl
    unfold codeEscape at hn
    split at hn
    · rename_i hlt
      rw [hunit n hlt] at hn
      exact .inl (Option.some.inj hn).symm
    · rw [List.append_assoc, hunit _ (by omega)] at hn
      have := Option.some.inj hn
      omega
  cases l with
  | surrogate i =>
      have hi := i.isLt
      exact hcode _ h (by simp only [Letter.code, Letter.firstSurrogate]; omega)
  | char c =>
      have hvalid : c.toNat < 0xD800 ∨ 0xDFFF < c.toNat ∧ c.toNat < 0x110000 := c.valid
      simp only [escapedLetter] at h
      have hshort {x : Char} (hx : x ≠ 'u') : escapedUnit? ('\\' :: x :: s) ≠ some unit := by
        simp [escapedUnit?, hx]
      split_ifs at h with _ hslash
      · exact absurd h (hshort (by decide))
      · exact absurd h (hshort (by decide))
      · exact absurd h (hshort (by decide))
      · exact absurd h (hshort (by decide))
      · exact absurd h (hshort (by decide))
      · exact absurd h (hshort (by decide))
      · exact absurd h (hshort (by decide))
      · rw [List.singleton_append, escapedUnit?_of_ne hslash] at h
        cases h
      · exact hcode c.toNat h (by omega)

/-- No letter is written with the sign that ends a string in front. -/
theorem exists_escapedLetter_eq_cons (l : Letter) :
    ∃ x s, escapedLetter l = x :: s ∧ x ≠ '"' := by
  have hcode (n : Nat) : ∃ s, codeEscape n = '\\' :: s := by
    unfold codeEscape
    split
    · exact ⟨_, rfl⟩
    · exact ⟨_, rfl⟩
  obtain ⟨s, hs⟩ := hcode l.code
  cases l with
  | surrogate i => exact ⟨_, s, hs, by decide⟩
  | char c =>
      rw [Letter.code] at hs
      simp only [escapedLetter, hs]
      split_ifs with hquote
      all_goals first
        | exact ⟨_, _, rfl, by decide⟩
        | exact ⟨_, _, rfl, hquote⟩

theorem stringRest?_cons {fuel : Nat} {x : Char} {s : List Char} (hx : x ≠ '"') :
    stringRest? (fuel + 1) (x :: s) = (do
      let (l, s) ← stringLetter? (x :: s)
      let (ls, s) ← stringRest? fuel s
      some (l :: ls, s)) := by
  rw [stringRest?]
  simpa using hx

theorem stringRest?_escaped {fuel : Nat} {ls : List Letter} (hfuel : ls.length < fuel)
    (h : ls.IsChain (fun l l' => paired? l.code l'.code = none)) (rest : List Char) :
    stringRest? fuel (ls.flatMap escapedLetter ++ '"' :: rest) = some (ls, rest) := by
  induction ls generalizing fuel with
  | nil =>
      cases fuel with
      | zero => exact absurd hfuel (Nat.not_lt_zero _)
      | succ fuel => rfl
  | cons l ls ih =>
      cases fuel with
      | zero => exact absurd hfuel (Nat.not_lt_zero _)
      | succ fuel =>
          have hnext (low : Nat)
              (hlow : escapedUnit? (ls.flatMap escapedLetter ++ '"' :: rest) = some low) :
              paired? l.code low = none := by
            cases ls with
            | nil => cases hlow
            | cons l' ls =>
                rw [List.flatMap_cons, List.append_assoc] at hlow
                rcases escapedUnit?_escapedLetter hlow with rfl | hhalf
                · exact (List.isChain_cons_cons.1 h).1
                · exact paired?_eq_none (.inr (.inr (.inl hhalf)))
          obtain ⟨x, s, hs, hx⟩ := exists_escapedLetter_eq_cons l
          have hletter := stringLetter?_escapedLetter hnext
          rw [hs, List.cons_append] at hletter
          rw [List.flatMap_cons, List.append_assoc, hs, List.cons_append, stringRest?_cons hx,
            hletter]
          simp only [Option.bind_eq_bind, Option.bind_some,
            ih (Nat.lt_of_succ_lt_succ hfuel) h.of_cons]

theorem length_le_length_escaped (ls : List Letter) :
    ls.length ≤ (ls.flatMap escapedLetter).length := by
  induction ls with
  | nil => exact Nat.le_refl 0
  | cons l ls ih =>
      obtain ⟨x, s, hs, -⟩ := exists_escapedLetter_eq_cons l
      rw [List.flatMap_cons, hs, List.length_append, List.length_cons, List.length_cons]
      omega

/-- A text between quotes is read back. -/
theorem string?_escaped {t : Text} (h : t.IsUnpaired) (rest : List Char) :
    string? (t.toList.flatMap escapedLetter ++ '"' :: rest) = some (t, rest) := by
  have hlength : t.toList.length < (t.toList.flatMap escapedLetter ++ '"' :: rest).length + 1 := by
    have hle := length_le_length_escaped t.toList
    rw [List.length_append]
    omega
  rw [string?, stringRest?_escaped hlength h, Option.map_some]

theorem isUnpaired_of_isPlain {t : Text} (h : t.IsPlain) : t.IsUnpaired := by
  refine List.Pairwise.isChain (List.pairwise_of_forall_mem_list (fun l hl l' _ => ?_))
  cases l with
  | surrogate i => exact absurd (List.any_eq_false.1 h _ hl) (by simp [Letter.isSurrogate])
  | char c =>
      have hvalid : c.toNat < 0xD800 ∨ 0xDFFF < c.toNat ∧ c.toNat < 0x110000 := c.valid
      exact paired?_eq_none (by rw [Letter.code]; omega)

/-- Two surrogates that make a pair are written as the character of the pair is. -/
example : stringText ⟨[.ofCode 0xD83D, .ofCode 0xDE00]⟩ = stringText "😀" := by decide

/-! ### Values -/

/-- A text that is read as a datum, whatever stands behind it. It begins with a quote or a
bracket. -/
structure Reads (d : Datum) (s : List Char) : Prop where
  opens : ∃ c rest, s = c :: rest ∧ (c = '"' ∨ c = '[' ∨ c = '\x7b')
  value : ∀ fuel, 2 * s.length ≤ fuel → ∀ rest, value? fuel (s ++ rest) = some (d, rest)

/-- A text is read as one datum at most. -/
theorem Reads.eq {d d' : Datum} {s : List Char} (h : Reads d s) (h' : Reads d' s) : d = d' := by
  have hd := h.value _ le_rfl []
  rw [h'.value _ le_rfl []] at hd
  exact (Prod.mk.inj (Option.some.inj hd)).1.symm

def IsEnded (rest : List Char) : Prop := ∀ c ∈ rest.head?, isDelimiter c = true

/-- A text that is read as a datum if a delimiter or nothing stands behind it. It does not begin with
a blank or with what closes a list or a mapping. -/
structure ReadsEnded (d : Datum) (s : List Char) : Prop where
  opens : ∃ c rest, s = c :: rest ∧ isSpace c = false ∧ c ≠ ']' ∧ c ≠ '\x7d'
  value : ∀ fuel, 2 * s.length ≤ fuel → ∀ rest, IsEnded rest →
    value? fuel (s ++ rest) = some (d, rest)

theorem Reads.ended {d : Datum} {s : List Char} (h : Reads d s) : ReadsEnded d s := by
  obtain ⟨⟨c, rest, rfl, hc⟩, hvalue⟩ := h
  refine ⟨⟨c, rest, rfl, ?_⟩, fun fuel hfuel rest _ => hvalue fuel hfuel rest⟩
  rcases hc with rfl | rfl | rfl <;> decide

theorem isEnded_nil : IsEnded [] := nofun

theorem isEnded_cons {c : Char} (hc : isDelimiter c = true) (s : List Char) : IsEnded (c :: s) := by
  rintro c' hc'
  obtain rfl := Option.some.inj hc'
  exact hc

/-- A text that is read as a datum is read alone. -/
theorem ReadsEnded.read?_eq {d : Datum} {s : String} (h : ReadsEnded d s.toList) :
    read? s = some d := by
  have hvalue := h.value (2 * s.toList.length + 2) (by omega) [] isEnded_nil
  rw [List.append_nil] at hvalue
  rw [read?, hvalue]
  rfl

theorem toList_stringText (t : Text) :
    (stringText t).toList = '"' :: (t.toList.flatMap escapedLetter ++ ['"']) := by
  rw [stringText, String.toList_ofList]
  rfl

theorem reads_text {t : Text} (h : t.IsUnpaired) : Reads (.text t) (stringText t).toList := by
  rw [toList_stringText]
  refine ⟨⟨_, _, rfl, .inl rfl⟩, fun fuel hfuel rest => ?_⟩
  rw [List.length_cons] at hfuel
  obtain ⟨m, rfl⟩ : ∃ m, fuel = m + 1 := ⟨fuel - 1, by omega⟩
  have hquote (s : List Char) : skipSpace ('"' :: s) = '"' :: s := rfl
  rw [List.cons_append, List.append_assoc, List.singleton_append, value?]
  simp only [hquote, string?_escaped h, Option.map_some]

/-! ### Words -/

/-- A word is read up to the delimiter behind it. -/
theorem plain?_append {s rest : List Char} (hs : ∀ c ∈ s, isDelimiter c = false)
    (hrest : IsEnded rest) : plain? (s ++ rest) = (word? s).map (fun d => (d, rest)) := by
  have hin : ∀ c ∈ s, (!isDelimiter c) = true := fun c hc => by rw [hs c hc]; rfl
  have htake : rest.takeWhile (!isDelimiter ·) = [] := by
    cases rest with
    | nil => rfl
    | cons c rest => rw [List.takeWhile_cons_of_neg (by simp [hrest c rfl])]
  have hdrop : rest.dropWhile (!isDelimiter ·) = rest := by
    cases rest with
    | nil => rfl
    | cons c rest => rw [List.dropWhile_cons_of_neg (by simp [hrest c rfl])]
  rw [plain?, List.takeWhile_append_of_pos hin, List.dropWhile_append_of_pos hin, htake, hdrop,
    List.append_nil]

theorem readsEnded_word {d : Datum} {s : List Char} (hne : s ≠ [])
    (hs : ∀ c ∈ s, isDelimiter c = false) (h : word? s = some d) : ReadsEnded d s := by
  obtain ⟨c, t, rfl⟩ := List.exists_cons_of_ne_nil hne
  have hc := hs c List.mem_cons_self
  have hother {c' : Char} (hc' : isDelimiter c' = true) : c ≠ c' := by
    rintro rfl
    exact Bool.false_ne_true (hc.symm.trans hc')
  have hspace : isSpace c = false := by
    simp only [isDelimiter, Bool.or_eq_false_iff] at hc
    exact hc.1.1.1.1.1.1.1
  refine ⟨⟨c, t, rfl, hspace, hother rfl, hother rfl⟩, fun fuel hfuel rest hrest => ?_⟩
  rw [List.length_cons] at hfuel
  obtain ⟨m, rfl⟩ : ∃ m, fuel = m + 1 := ⟨fuel - 1, by omega⟩
  have hskip : skipSpace (c :: t ++ rest) = c :: t ++ rest :=
    List.dropWhile_cons_of_neg (by simp [hspace])
  rw [value?, hskip]
  split
  · rename_i heq
    exact absurd (List.cons.inj heq).1 (hother rfl)
  · rename_i heq
    exact absurd (List.cons.inj heq).1 (hother rfl)
  · rename_i heq
    exact absurd (List.cons.inj heq).1 (hother rfl)
  · rw [plain?_append hs hrest, h, Option.map_some]

/-! ### Lists -/

theorem value?_blank (fuel : Nat) (s : List Char) : value? fuel (' ' :: s) = value? fuel s := by
  cases fuel with
  | zero => rfl
  | succ fuel => rfl

def joinedParts (parts : List (List Char)) : List Char := [',', ' '].intercalate parts

theorem joinedParts_singleton (s : List Char) : joinedParts [s] = s := by
  simp [joinedParts, List.intercalate]

theorem joinedParts_cons_cons (s s' : List Char) (ss : List (List Char)) :
    joinedParts (s :: s' :: ss) = s ++ ',' :: ' ' :: joinedParts (s' :: ss) := by
  rw [joinedParts, List.intercalate_cons_cons, List.append_assoc]
  rfl

theorem items?_blank (fuel : Nat) (s : List Char) : items? fuel (' ' :: s) = items? fuel s := by
  cases fuel with
  | zero => rfl
  | succ fuel => rw [items?, items?, value?_blank]

theorem items?_joinedParts {d : Datum} {s : List Char} {ds : List Datum} {ss : List (List Char)}
    (h : ReadsEnded d s) (hs : List.Forall₂ ReadsEnded ds ss) {fuel : Nat}
    (hfuel : 2 * (joinedParts (s :: ss)).length + 1 ≤ fuel) (rest : List Char) :
    items? fuel (joinedParts (s :: ss) ++ ']' :: rest) = some (d :: ds, rest) := by
  have hclose (t : List Char) : skipSpace (']' :: t) = ']' :: t := rfl
  have hcomma (t : List Char) : skipSpace (',' :: t) = ',' :: t := rfl
  have hended (t : List Char) : IsEnded (',' :: t) ∧ IsEnded (']' :: t) :=
    ⟨isEnded_cons rfl t, isEnded_cons rfl t⟩
  obtain ⟨m, rfl⟩ : ∃ m, fuel = m + 1 := ⟨fuel - 1, by omega⟩
  induction hs generalizing d s m with
  | nil =>
      rw [joinedParts_singleton] at hfuel ⊢
      have hvalue := h.value m (by omega) _ (hended rest).2
      rw [items?]
      simp only [hvalue, hclose, Option.bind_eq_bind, Option.bind_some]
  | cons h' hs ih =>
      rw [joinedParts_cons_cons] at hfuel ⊢
      rw [List.length_append, List.length_cons, List.length_cons] at hfuel
      obtain ⟨m, rfl⟩ : ∃ m', m = m' + 1 := ⟨m - 1, by omega⟩
      rw [List.append_assoc, List.cons_append, List.cons_append, items?]
      simp only [h.value (m + 1) (by omega) _ (hended _).1, hcomma, items?_blank,
        ih h' m (by omega), Option.bind_eq_bind, Option.bind_some, Option.map_some]

theorem exists_joinedParts_eq_cons (c : Char) (s : List Char) (ss : List (List Char)) :
    ∃ t, joinedParts ((c :: s) :: ss) = c :: t := by
  cases ss with
  | nil => exact ⟨s, joinedParts_singleton _⟩
  | cons s' ss => exact ⟨_, joinedParts_cons_cons _ _ _⟩

theorem value?_bracket {fuel : Nat} {c : Char} {s : List Char} (hspace : isSpace c = false)
    (hclose : c ≠ ']') :
    value? (fuel + 1) ('[' :: c :: s) =
      (items? fuel (c :: s)).map (fun r => (.list r.1, r.2)) := by
  have hopen : skipSpace ('[' :: c :: s) = '[' :: c :: s := rfl
  have hskip : skipSpace (c :: s) = c :: s := List.dropWhile_cons_of_neg (by simp [hspace])
  rw [value?, hopen]
  simp only [hskip]
  split
  · rename_i heq
    exact absurd (List.cons.inj heq).1 hclose
  · rfl

theorem reads_list {ds : List Datum} {ss : List (List Char)} (h : List.Forall₂ ReadsEnded ds ss) :
    Reads (.list ds) ('[' :: (joinedParts ss ++ [']'])) := by
  refine ⟨⟨_, _, rfl, .inr (.inl rfl)⟩, fun fuel hfuel rest => ?_⟩
  rw [List.length_cons, List.length_append, List.length_singleton] at hfuel
  obtain ⟨m, rfl⟩ : ∃ m, fuel = m + 1 := ⟨fuel - 1, by omega⟩
  cases h with
  | nil => rfl
  | @cons d s ds ss hd hds =>
      have hitems : items? m (joinedParts (s :: ss) ++ ']' :: rest) = some (d :: ds, rest) :=
        items?_joinedParts hd hds (by omega) rest
      obtain ⟨c, s, rfl, hspace, hclose, -⟩ := hd.opens
      obtain ⟨t, ht⟩ := exists_joinedParts_eq_cons c s ss
      rw [ht, List.cons_append] at hitems
      rw [ht, List.cons_append, List.cons_append, List.cons_append, List.append_assoc,
        List.singleton_append, value?_bracket hspace hclose, hitems, Option.map_some]

/-! ### Mappings -/

def ReadsEntry (f : Text × Datum) (s : List Char) : Prop :=
  f.1.IsUnpaired ∧ ∃ v, ReadsEnded f.2 v ∧ s = (stringText f.1).toList ++ ':' :: ' ' :: v

theorem entries?_blank (fuel : Nat) (s : List Char) :
    entries? fuel (' ' :: s) = entries? fuel s := by
  cases fuel with
  | zero => rfl
  | succ fuel => rfl

section

variable {fuel : Nat} {k : Text} {d : Datum} {s t rest : List Char} (hk : k.IsUnpaired)
include hk

theorem entries?_last (hs : value? fuel s = some (d, '\x7d' :: rest)) :
    entries? (fuel + 1) ((stringText k).toList ++ ':' :: ' ' :: s) =
      some ([(.text k, d)], rest) := by
  have hquote (t : List Char) : skipSpace ('"' :: t) = '"' :: t := rfl
  have hcolon (t : List Char) : skipSpace (':' :: t) = ':' :: t := rfl
  have hclose (t : List Char) : skipSpace ('\x7d' :: t) = '\x7d' :: t := rfl
  rw [toList_stringText, List.cons_append, List.append_assoc, List.singleton_append, entries?]
  simp only [hquote, string?_escaped hk, hcolon, value?_blank, hs, hclose, Option.bind_eq_bind,
    Option.bind_some]

theorem entries?_more {fs : List (Datum × Datum)} (hs : value? fuel s = some (d, ',' :: t))
    (ht : entries? fuel t = some (fs, rest)) :
    entries? (fuel + 1) ((stringText k).toList ++ ':' :: ' ' :: s) =
      some ((.text k, d) :: fs, rest) := by
  have hquote (t : List Char) : skipSpace ('"' :: t) = '"' :: t := rfl
  have hcolon (t : List Char) : skipSpace (':' :: t) = ':' :: t := rfl
  have hcomma (t : List Char) : skipSpace (',' :: t) = ',' :: t := rfl
  rw [toList_stringText, List.cons_append, List.append_assoc, List.singleton_append, entries?]
  simp only [hquote, string?_escaped hk, hcolon, value?_blank, hs, hcomma, ht,
    Option.bind_eq_bind, Option.bind_some, Option.map_some]

end

theorem entries?_joinedParts {f : Text × Datum} {s : List Char} {fs : List (Text × Datum)}
    {ss : List (List Char)} (h : ReadsEntry f s) (hs : List.Forall₂ ReadsEntry fs ss) {fuel : Nat}
    (hfuel : 2 * (joinedParts (s :: ss)).length + 1 ≤ fuel) (rest : List Char) :
    entries? fuel (joinedParts (s :: ss) ++ '\x7d' :: rest) =
      some ((f :: fs).map (fun f => (.text f.1, f.2)), rest) := by
  obtain ⟨m, rfl⟩ : ∃ m, fuel = m + 1 := ⟨fuel - 1, by omega⟩
  induction hs generalizing f s m with
  | nil =>
      obtain ⟨hk, v, hv, rfl⟩ := h
      rw [joinedParts_singleton] at hfuel ⊢
      rw [List.length_append, List.length_cons, List.length_cons] at hfuel
      rw [List.append_assoc, List.cons_append, List.cons_append]
      exact entries?_last hk (hv.value m (by omega) _ (isEnded_cons rfl _))
  | @cons f' s' fs ss h' hs ih =>
      obtain ⟨hk, v, hv, rfl⟩ := h
      rw [joinedParts_cons_cons] at hfuel ⊢
      simp only [List.length_append, List.length_cons] at hfuel
      obtain ⟨m, rfl⟩ : ∃ m', m = m' + 1 := ⟨m - 1, by omega⟩
      rw [List.append_assoc, List.append_assoc, List.cons_append, List.cons_append,
        List.cons_append, List.cons_append]
      refine entries?_more hk (hv.value (m + 1) (by omega) _ (isEnded_cons rfl _)) ?_
      rw [entries?_blank]
      exact ih h' m (by omega)

theorem setKey_of_forall_ne {entries : List (Datum × Datum)} {k : Text} {v : Datum}
    (h : ∀ e ∈ entries, e.1.asText? ≠ some k) :
    Datum.setKey entries (.text k) v = entries ++ [(.text k, v)] := by
  unfold Datum.setKey
  rw [if_neg]
  simpa [Datum.same, Datum.equal, Except.toOption] using h

/-- Pairs with different texts for keys are the entries of their mapping. -/
theorem ofPairs_of_nodup {fs : List (Text × Datum)} (h : (fs.map Prod.fst).Nodup) :
    Datum.ofPairs (fs.map (fun f => (.text f.1, f.2))) = .object fs := by
  have hfold (gs : List (Text × Datum)) (hgs : ((gs ++ fs).map Prod.fst).Nodup) :
      (fs.map (fun f => (Datum.text f.1, f.2))).foldl (fun acc p => Datum.setKey acc p.1 p.2)
          (gs.map (fun f => (.text f.1, f.2))) = (gs ++ fs).map (fun f => (.text f.1, f.2)) := by
    induction fs generalizing gs with
    | nil => simp
    | cons f fs ih =>
        have hnew : ∀ e ∈ gs.map (fun f => (Datum.text f.1, f.2)), e.1.asText? ≠ some f.1 := by
          intro e he hf
          obtain ⟨g, hg, rfl⟩ := List.mem_map.1 he
          rw [List.map_append, List.map_cons] at hgs
          exact (List.nodup_append.1 hgs).2.2 g.1 (List.mem_map_of_mem hg) f.1 List.mem_cons_self
            (Option.some.inj hf)
        have hrest := ih (List.nodup_cons.1 h).2 (gs ++ [f]) (by rwa [← List.append_cons])
        rw [← List.append_cons, List.map_append] at hrest
        rw [List.map_cons, List.foldl_cons, setKey_of_forall_ne hnew]
        exact hrest
  rw [Datum.ofPairs, Datum.object, ← List.nil_append fs]
  exact congrArg Datum.map (hfold [] h)

theorem reads_object {fs : List (Text × Datum)} {ss : List (List Char)}
    (hnodup : (fs.map Prod.fst).Nodup) (h : List.Forall₂ ReadsEntry fs ss) :
    Reads (.object fs) ('\x7b' :: (joinedParts ss ++ ['\x7d'])) := by
  refine ⟨⟨_, _, rfl, .inr (.inr rfl)⟩, fun fuel hfuel rest => ?_⟩
  rw [List.length_cons, List.length_append, List.length_singleton] at hfuel
  obtain ⟨m, rfl⟩ : ∃ m, fuel = m + 1 := ⟨fuel - 1, by omega⟩
  cases h with
  | nil => rfl
  | @cons f s fs ss hf hfs =>
      have hentries : entries? m (joinedParts (s :: ss) ++ '\x7d' :: rest) =
          some ((f :: fs).map (fun f => (.text f.1, f.2)), rest) :=
        entries?_joinedParts hf hfs (by omega) rest
      obtain ⟨-, v, -, rfl⟩ := hf
      have hquote : (stringText f.1).toList ++ ':' :: ' ' :: v =
          '"' :: (f.1.toList.flatMap escapedLetter ++ ['"'] ++ ':' :: ' ' :: v) := by
        rw [toList_stringText, List.cons_append]
      rw [hquote] at hentries ⊢
      obtain ⟨t, ht⟩ := exists_joinedParts_eq_cons '"'
        (f.1.toList.flatMap escapedLetter ++ ['"'] ++ ':' :: ' ' :: v) ss
      rw [ht, List.cons_append] at hentries
      have hobject : value? (m + 1) ('\x7b' :: '"' :: (t ++ '\x7d' :: rest)) =
          (entries? m ('"' :: (t ++ '\x7d' :: rest))).map (fun r => (Datum.ofPairs r.1, r.2)) := rfl
      rw [ht, List.cons_append, List.cons_append, List.cons_append, List.append_assoc,
        List.singleton_append, hobject, hentries, Option.map_some, ofPairs_of_nodup hnodup]

end Json

end Appraisal
