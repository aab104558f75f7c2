import Appraisal.Formula.Token
import Mathlib.Data.List.TakeDrop
import Mathlib.Data.List.TakeWhile

/-!
# Where words stand

A token takes the characters that it is read from, neither more nor fewer. So in a text of one line of
ASCII characters the offset of a lexeme is the number of characters before it, and a name is the word
that stands there.
-/

namespace Appraisal.Formula

variable {s : List Char}

/-! ### Numbers -/

/-- What is taken of a text and what is left make up the text. -/
def Splits {α : Type} (s : List Char) (r : α × List Char × List Char) : Prop := r.2.1 ++ r.2.2 = s

theorem Splits.append {α : Type} {r : α × List Char × List Char} (hr : Splits s r) {a : α}
    {taken rest : List Char} (h : r = (a, taken, rest)) : taken ++ rest = s := by
  rwa [h] at hr

theorem splits_spanGrouped (isDigit : Char → Bool) (s : List Char) :
    Splits s (spanGrouped isDigit s) := by
  unfold Splits
  fun_induction spanGrouped isDigit s <;> simp_all

theorem splits_spanDecimal (s : List Char) : Splits s (spanDecimal s) := by
  unfold spanDecimal
  split
  · rfl
  · exact splits_spanGrouped isDecimal s

theorem splits_of_spanExponent {r : Int × List Char × List Char} (h : spanExponent s = some r) :
    Splits s r := by
  unfold spanExponent at h
  split at h
  · split at h
    · split at h
      all_goals
        split at h
        · cases h
        · rename_i hdigits
          obtain rfl := Option.some.inj h
          simp [Splits, (splits_spanDecimal _).append hdigits]
    · cases h
  · cases h

theorem eq_of_finish {point : Bool} {exponent : Option Int} {whole taken rest : List Char}
    {numeral : Numeral} {r : Constant × List Char × List Char}
    (h : decimalNumber?.finish point exponent whole numeral taken rest = some r) :
    r.2 = (taken, rest) := by
  unfold decimalNumber?.finish at h
  split at h
  · rw [← Option.some.inj h]
  · split at h
    · cases h
    · rw [← Option.some.inj h]

theorem splits_of_decimalNumber? {r : Constant × List Char × List Char}
    (h : decimalNumber? s = some r) : Splits s r := by
  unfold decimalNumber? at h
  split at h
  rename_i whole taken rest hwhole
  split at h
  rename_i point fraction taken' rest' hfraction
  split at h
  rename_i exponent taken'' rest'' hexponent
  have hpoint : taken' ++ rest' = s := by
    rw [← (splits_spanDecimal s).append hwhole]
    split at hfraction
    · split at hfraction
      rename_i hdigits
      cases hfraction
      simp [(splits_spanDecimal _).append hdigits]
    · cases hfraction
      rfl
  have hall : taken'' ++ rest'' = s := by
    rw [← hpoint]
    split at hexponent
    · rename_i he
      cases hexponent
      rw [List.append_assoc]
      exact congrArg (taken' ++ ·) (splits_of_spanExponent he)
    · cases hexponent
      rfl
  have hfinish {numeral : Numeral}
      (hr : decimalNumber?.finish point exponent whole numeral taken'' rest'' = some r) :
      Splits s r := by
    rw [Splits, eq_of_finish hr]
    exact hall
  split at h
  · split at h
    · obtain rfl := Option.some.inj h
      simpa [Splits] using hall
    · exact hfinish h
  · exact hfinish h

theorem splits_of_number? {r : Constant × List Char × List Char} (h : number? s = some r) :
    Splits s r := by
  unfold number? at h
  simp only at h
  split at h
  · rename_i constant taken rest hfound
    split at h
    · obtain rfl := Option.some.inj h
      split at hfound
      · split at hfound
        · split at hfound
          · cases hfound
          · rename_i hdigits
            rw [← Option.some.inj hfound]
            exact congrArg (_ :: _ :: ·) ((splits_spanGrouped _ _).append hdigits)
        · exact splits_of_decimalNumber? hfound
      · exact splits_of_decimalNumber? hfound
    · cases h
  · cases h

/-! ### Strings and symbols -/

theorem append_of_shortBody? {quote : Char} {r : List Char × List Char}
    (h : shortBody? quote s = some r) : r.1 ++ ([quote] ++ r.2) = s := by
  fun_induction shortBody? quote s generalizing r with
  | case1 => cases h
  | case2 => cases h
  | case3 c s ih =>
      obtain ⟨r', hr', rfl⟩ := Option.map_eq_some_iff.1 h
      exact congrArg (_ :: _ :: ·) (ih hr')
  | case4 s =>
      obtain rfl := Option.some.inj h
      rfl
  | case5 => cases h
  | case6 c s _ _ _ _ ih =>
      obtain ⟨r', hr', rfl⟩ := Option.map_eq_some_iff.1 h
      exact congrArg (_ :: ·) (ih hr')

theorem append_of_longBody? {quote : Char} {r : List Char × List Char}
    (h : longBody? quote s = some r) : r.1 ++ ([quote, quote, quote] ++ r.2) = s := by
  fun_induction longBody? quote s generalizing r with
  | case1 => cases h
  | case2 => cases h
  | case3 c s ih =>
      obtain ⟨r', hr', rfl⟩ := Option.map_eq_some_iff.1 h
      exact congrArg (_ :: _ :: ·) (ih hr')
  | case4 c s _ _ hquotes =>
      obtain rfl := Option.some.inj h
      rw [Bool.and_eq_true, decide_eq_true_eq, decide_eq_true_eq] at hquotes
      obtain ⟨rfl, hmarks⟩ := hquotes
      have hs := List.take_append_drop 2 s
      rw [hmarks] at hs
      exact congrArg (c :: ·) hs
  | case5 c s _ _ _ ih =>
      obtain ⟨r', hr', rfl⟩ := Option.map_eq_some_iff.1 h
      exact congrArg (_ :: ·) (ih hr')

theorem splits_of_string? {r : Piece × List Char × List Char} (h : string? s = some (some r)) :
    Splits s r := by
  unfold string? at h
  generalize hletters : (s.take 3).takeWhile Char.isAlpha = letters at h
  simp only at h
  split at h
  · split at h
    · rename_i q t _ hrest _
      have hs : letters ++ q :: t = s := by
        rw [← hrest, ← hletters]
        exact List.prefix_iff_eq_append.1 ((List.takeWhile_prefix _).trans (List.take_prefix 3 s))
      obtain ⟨r', hr', rfl⟩ := Option.map_eq_some_iff.1 (Option.some.inj h)
      rw [Splits, ← hs]
      split_ifs at hr' ⊢ with hlong
      · have ht := List.take_append_drop 2 t
        rw [hlong, ← append_of_longBody? hr'] at ht
        rw [← ht]
        simp
      · rw [← append_of_shortBody? hr']
        simp
    · cases h
  · cases h

theorem splits_of_symbol? {k : String} (h : symbol? s = some k) :
    Splits s (k, k.toList, s.drop k.length) := by
  have htake (n : Nat) (hk : String.ofList (s.take n) = k) :
      Splits s (k, k.toList, s.drop k.length) := by
    subst hk
    rw [Splits, String.length_ofList, String.toList_ofList]
    exact List.prefix_iff_eq_append.1 (List.take_prefix n s)
  unfold symbol? at h
  simp only at h
  split_ifs at h with h3 h2 h1
  · exact htake 3 (Option.some.inj h)
  · exact htake 2 (Option.some.inj h)
  · exact htake 1 (Option.some.inj h)

/-! ### Words -/

/-- A name of ASCII characters is the word that it is read from. -/
theorem eq_of_wordToken? {w : List Char} {n : String} (hw : ∀ c ∈ w, c.toNat < 128)
    (h : wordToken? w = some (.name n)) : w = n.toList := by
  have hall : w.all (fun c => c.toNat < 128) = true := by simpa using hw
  unfold wordToken? at h
  rw [if_pos hall] at h
  simp only [Option.some.injEq] at h
  split at h
  · cases h
  · rw [← Token.name.inj h, String.toList_ofList]

theorem splits_of_token? {r : Token × List Char × List Char} (h : token? s = some r) :
    Splits s r := by
  unfold token? at h
  split at h
  · cases h
  · split at h
    · rename_i found hfound
      obtain ⟨r', rfl, rfl⟩ := Option.map_eq_some_iff.1 h
      exact splits_of_string? hfound
    · split at h
      · obtain ⟨k, -, rfl⟩ := Option.map_eq_some_iff.1 h
        exact List.takeWhile_append_dropWhile
      · split at h
        · obtain ⟨r', hr', rfl⟩ := Option.map_eq_some_iff.1 h
          exact splits_of_number? hr'
        · obtain ⟨k, hk, rfl⟩ := Option.map_eq_some_iff.1 h
          exact splits_of_symbol? hk

def WordAt (text : List Char) (column : Nat) (n : String) : Prop :=
  0 < column ∧ (text.drop (column - 1)).takeWhile isWordChar = n.toList ∧ n.toList ≠ []

theorem takeWhile_ne_nil {c : Char} (h : isWordStart c = true) (s : List Char) :
    (c :: s).takeWhile isWordChar ≠ [] := by
  have hword : isWordChar c = true := by
    unfold isWordStart at h
    unfold isWordChar Char.isAlphanum
    rw [Bool.or_eq_true, Bool.or_eq_true] at h ⊢
    exact h.imp_left (Or.imp_left (Bool.or_eq_true_iff.2 ∘ Or.inl))
  rw [List.takeWhile_cons_of_pos hword]
  exact List.cons_ne_nil _ _

/-- A name is read from the whole word at the head of the text. -/
theorem wordAt_of_token? {taken rest : List Char} {n : String} (hs : ∀ c ∈ s, c.toNat < 128)
    (h : token? s = some (.name n, taken, rest)) : WordAt s 1 n := by
  unfold token? at h
  split at h
  · cases h
  · split at h
    · obtain ⟨r', -, hr⟩ := Option.map_eq_some_iff.1 h
      cases hr
    · split at h
      · rename_i hstart
        obtain ⟨k, hk, hr⟩ := Option.map_eq_some_iff.1 h
        obtain rfl : k = .name n := (Prod.mk.inj hr).1
        have hword := eq_of_wordToken? (fun c hc => hs c ((List.takeWhile_prefix _).subset hc)) hk
        exact ⟨Nat.one_pos, hword, hword ▸ takeWhile_ne_nil hstart _⟩
      · split at h
        · obtain ⟨r', -, hr⟩ := Option.map_eq_some_iff.1 h
          cases hr
        · obtain ⟨k, -, hr⟩ := Option.map_eq_some_iff.1 h
          cases hr

/-! ### Lines -/

def Named (R : Nat → String → Prop) (tokens : List Lexeme) : Prop :=
  ∀ l ∈ tokens, ∀ n, l.token = .name n → R (l.offset + 1) n

theorem Named.tail {R : Nat → String → Prop} {l : Lexeme} {tokens : List Lexeme}
    (h : Named R (l :: tokens)) : Named R tokens := (List.forall_mem_cons.1 h).2

def IsAsciiLine (text : List Char) : Prop := ∀ c ∈ text, c.toNat < 128 ∧ c ≠ '\n' ∧ c ≠ '\r'

instance (text : List Char) : Decidable (IsAsciiLine text) :=
  List.decidableBAll (fun c : Char => c.toNat < 128 ∧ c ≠ '\n' ∧ c ≠ '\r') text

theorem advance_of_isAsciiLine {taken : List Char} (h : IsAsciiLine taken) (offset : Nat) :
    advance offset taken = offset + taken.length := by
  induction taken generalizing offset with
  | nil => rfl
  | cons c taken ih =>
      obtain ⟨⟨hascii, hline, -⟩, htail⟩ := List.forall_mem_cons.1 h
      have hsize : c.utf8Size = 1 := Char.utf8Size_eq_one_iff.2 (Nat.le_of_lt_succ hascii)
      rw [advance, List.foldl_cons, if_neg hline, hsize, ← advance, ih htail, List.length_cons]
      omega

theorem unifyLineEnds_of_isAsciiLine (h : IsAsciiLine s) : unifyLineEnds s = s := by
  fun_induction unifyLineEnds s with
  | case1 s ih => exact absurd rfl (h _ List.mem_cons_self).2.2
  | case2 s _ ih => exact absurd rfl (h _ List.mem_cons_self).2.2
  | case3 c s _ _ ih => rw [ih (List.forall_mem_cons.1 h).2]
  | case4 => rfl

theorem eq_nil_of_lexFrom_nil {fuel : Nat} {p : Position} {tokens : List Lexeme}
    (h : lexFrom fuel p [] = some tokens) : tokens = [] := by
  cases fuel with
  | zero => cases h
  | succ fuel =>
      rw [lexFrom] at h
      split_ifs at h
      exact (Option.some.inj h).symm

/-- The offset of the tokenizer is the number of characters in front of the rest of the text. -/
theorem named_of_lexFrom {text rest : List Char} (htext : IsAsciiLine text) {fuel : Nat} {p : Position}
    {tokens : List Lexeme} (hrest : text.drop p.offset = rest)
    (h : lexFrom fuel p rest = some tokens) : Named (WordAt text) tokens := by
  induction fuel generalizing p rest tokens with
  | zero => cases h
  | succ fuel ih =>
      cases rest with
      | nil =>
          rw [eq_nil_of_lexFrom_nil h]
          exact fun l hl => absurd hl List.not_mem_nil
      | cons c s =>
          have hline : IsAsciiLine (c :: s) := fun d hd => htext d (List.mem_of_mem_drop (hrest ▸ hd))
          obtain ⟨⟨-, hc, -⟩, hs⟩ := List.forall_mem_cons.1 hline
          have hnext (n : Nat) : text.drop (p.offset + n) = (c :: s).drop n := by
            rw [← hrest, List.drop_drop]
          unfold lexFrom at h
          rw [if_neg hc] at h
          split at h
          · exact ih (hnext 1) h
          split at h
          · -- a comment goes up to the end of the text
            have hcomment : s.dropWhile (· != '\n') = [] :=
              List.dropWhile_eq_nil_iff.2 (fun d hd => bne_iff_ne.2 (hs d hd).2.1)
            rw [hcomment] at h
            rw [eq_nil_of_lexFrom_nil h]
            exact fun l hl => absurd hl List.not_mem_nil
          split at h
          · split at h
            · exact absurd rfl (hs '\n' List.mem_cons_self).2.1
            · cases h
          split at h
          · split at h
            · cases h
            · rename_i k taken rest htoken
              split at h
              · cases h
              · obtain ⟨tokens, htokens, rfl⟩ := Option.map_eq_some_iff.1 h
                have hsplits : taken ++ rest = c :: s := splits_of_token? htoken
                have htaken : IsAsciiLine taken := fun d hd =>
                  hline d (hsplits ▸ List.mem_append_left rest hd)
                refine List.forall_mem_cons.2 ⟨fun n hn => ?_, ih ?_ htokens⟩
                · subst hn
                  obtain ⟨hpos, hword, hne⟩ := wordAt_of_token? (fun d hd => (hline d hd).1) htoken
                  refine ⟨Nat.succ_pos _, ?_, hne⟩
                  rw [Nat.add_sub_cancel, hrest]
                  exact hword
                · rw [advance_of_isAsciiLine htaken, hnext, ← hsplits, List.drop_left]
          · cases h

/-- In a text of one line a name is the word at its column. -/
theorem named_of_lex? {text : List Char} (htext : IsAsciiLine text) {tokens : List Lexeme}
    (h : lex? text = some tokens) : Named (WordAt text) tokens := by
  unfold lex? at h
  rw [unifyLineEnds_of_isAsciiLine htext] at h
  exact named_of_lexFrom htext rfl h

end Appraisal.Formula
