import Appraisal.Text.Basic
import Appraisal.Text.Blank
import Mathlib.Data.List.DropRight
import Mathlib.Data.List.TakeWhile

/-!
# Plain and trimmed texts

A text in which no surrogate stands is a string and can be written as bytes. Plain texts joined are
plain. A trimmed text has no blank at its ends, so trimming it again changes nothing. It stands in the
text behind the blanks that the text starts with, and only blanks stand behind it.
-/

namespace Appraisal.Text

/-! ### Plain texts -/

theorem filterMap_char?_of_chars? {s : List Letter} {cs : List Char} (h : chars? s = some cs) :
    s.filterMap Letter.char? = cs := by
  rw [← map_char_of_chars? h, List.filterMap_map]
  exact List.filterMap_some

theorem exists_chars?_iff {s : List Letter} :
    (∃ cs, chars? s = some cs) ↔ s.any Letter.isSurrogate = false := by
  constructor
  · rintro ⟨cs, h⟩
    rw [← map_char_of_chars? h]
    simp [Letter.isSurrogate]
  · intro h
    induction s with
    | nil => exact ⟨[], rfl⟩
    | cons l s ih =>
        rw [List.any_cons, Bool.or_eq_false_iff] at h
        obtain ⟨cs, hcs⟩ := ih h.2
        cases l with
        | surrogate i => simp [Letter.isSurrogate] at h
        | char c =>
            refine ⟨c :: cs, ?_⟩
            unfold chars? at hcs ⊢
            rw [List.mapM_cons, hcs]
            rfl

theorem foldl_utf8Size (cs : List Char) :
    cs.foldl (fun n c => n + c.utf8Size) 0 = (String.ofList cs).utf8ByteSize := by
  have hfold (n : Nat) :
      cs.foldl (fun n c => n + c.utf8Size) n = n + (String.ofList cs).utf8ByteSize := by
    induction cs generalizing n with
    | nil => rfl
    | cons c cs ih =>
        rw [List.foldl_cons, ih, String.ofList_cons, String.utf8ByteSize_append,
          String.utf8ByteSize_singleton, Nat.add_assoc]
  rw [hfold, Nat.zero_add]

def IsPlain (t : Text) : Prop := t.toList.any Letter.isSurrogate = false

theorem IsPlain.exists_string? {t : Text} (h : t.IsPlain) : ∃ s, t.string? = some s := by
  obtain ⟨cs, hcs⟩ := exists_chars?_iff.2 h
  exact ⟨String.ofList cs, by rw [string?, hcs]; rfl⟩

theorem isPlain_ofString (s : String) : (ofString s).IsPlain :=
  exists_chars?_iff.1 ⟨s.toList, chars?_map_char s.toList⟩

theorem isPlain_of_string? {t : Text} {s : String} (h : t.string? = some s) : t.IsPlain := by
  rw [← ofString_of_string? h]
  exact isPlain_ofString s

theorem isPlain_append_iff {s t : Text} : (s ++ t).IsPlain ↔ s.IsPlain ∧ t.IsPlain := by
  unfold IsPlain
  rw [toList_append, List.any_append, Bool.or_eq_false_iff]

theorem IsPlain.append {s t : Text} (hs : s.IsPlain) (ht : t.IsPlain) : (s ++ t).IsPlain :=
  isPlain_append_iff.2 ⟨hs, ht⟩

theorem isPlain_of_intercalate_cons {separator t : Text} {parts : List Text}
    (h : (intercalate separator (t :: parts)).IsPlain) : t.IsPlain := by
  have hsplit : ∃ rest, intercalate separator (t :: parts) = t ++ rest := by
    cases parts with
    | nil => exact ⟨⟨[]⟩, ext (by simp [intercalate, List.intercalate])⟩
    | cons u us =>
        exact ⟨separator ++ intercalate separator (u :: us),
          ext (by simp [intercalate, List.intercalate])⟩
  obtain ⟨rest, hrest⟩ := hsplit
  rw [hrest] at h
  exact (isPlain_append_iff.1 h).1

theorem isPlain_intercalate {separator : Text} {parts : List Text} (hs : separator.IsPlain)
    (h : ∀ t ∈ parts, t.IsPlain) : (intercalate separator parts).IsPlain := by
  induction parts with
  | nil => rfl
  | cons t ts ih =>
      rw [List.forall_mem_cons] at h
      cases ts with
      | nil =>
          have hone : intercalate separator [t] = t := by simp [intercalate, List.intercalate]
          rw [hone]
          exact h.1
      | cons u us =>
          have hmany : intercalate separator (t :: u :: us) =
              t ++ (separator ++ intercalate separator (u :: us)) := by
            apply ext
            simp [intercalate, List.intercalate]
          rw [hmany]
          exact h.1.append (hs.append (ih h.2))

/-! ### Trimmed texts -/

section Trimming

variable {α : Type} {p : α → Bool}

theorem trimmedOf_eq_rdropWhile (p : α → Bool) (s : List α) :
    trimmedOf p s = (s.dropWhile p).rdropWhile p := rfl

theorem trimmedOf_trimmedOf (p : α → Bool) (s : List α) :
    trimmedOf p (trimmedOf p s) = trimmedOf p s := by
  have hhead : (trimmedOf p s).dropWhile p = trimmedOf p s := by
    rw [List.dropWhile_eq_self_iff]
    intro hl
    -- what is left starts as it did before the end was cut
    have hstart : trimmedOf p s <+: s.dropWhile p := List.rdropWhile_prefix p _
    rw [hstart.getElem hl]
    exact List.dropWhile_eq_self_iff.1 (List.dropWhile_idempotent p s) (hl.trans_le hstart.length_le)
  rw [trimmedOf_eq_rdropWhile, hhead, trimmedOf_eq_rdropWhile]
  exact List.rdropWhile_idempotent p _

theorem trimmedOf_of_forall {s : List α} (h : ∀ c ∈ s, p c = false) : trimmedOf p s = s := by
  have hhead : s.dropWhile p = s :=
    List.dropWhile_eq_self_iff.2 (fun hl => ne_true_of_eq_false (h _ (List.getElem_mem hl)))
  rw [trimmedOf_eq_rdropWhile, hhead, List.rdropWhile_eq_self_iff]
  exact fun hs => ne_true_of_eq_false (h _ (List.getLast_mem hs))

@[simp] theorem trim_trim (t : Text) : t.trim.trim = t.trim :=
  congrArg ofList (trimmedOf_trimmedOf Letter.isBlank t.toList)

theorem exists_trimmedOf_append (p : α → Bool) (s : List α) :
    ∃ ending, s.dropWhile p = trimmedOf p s ++ ending ∧ ∀ c ∈ ending, p c = true := by
  refine ⟨((s.dropWhile p).reverse.takeWhile p).reverse, ?_, fun c hc => ?_⟩
  · rw [trimmedOf, ← List.reverse_append, List.takeWhile_append_dropWhile, List.reverse_reverse]
  · exact List.mem_takeWhile_imp (List.mem_reverse.1 hc)

theorem trimmedOf_map {β : Type} (q : β → Bool) (f : α → β) (s : List α) :
    trimmedOf q (s.map f) = (trimmedOf (q ∘ f) s).map f := by
  simp only [trimmedOf, List.dropWhile_map, ← List.map_reverse]

theorem toList_trim_ofString (s : String) :
    (ofString s).trim.toList = (trimmed s.toList).map .char :=
  trimmedOf_map Letter.isBlank Letter.char s.toList

end Trimming

end Appraisal.Text
