import Mathlib.Data.List.Infix
import Mathlib.Data.List.Perm.Basic
import Appraisal.Note.Terms

/-!
# Notes word by word

The search for a label goes through a note letter by letter, yet its result is one of words: the token
of a label is what stands behind it in the first word that holds it. So the terms that a note declares
do not depend on the order of its words, nor on the blanks between them, when each label starts one
word and stands nowhere else. The main statement: `tokens_follow_words`.
-/

namespace Appraisal.Note

open Text

/-! ### Words -/

def words (s : List Letter) : List (List Letter) :=
  (s.splitOnP Letter.isBlank).filter (fun w => !w.isEmpty)

def IsSolid (s : List Letter) : Prop := ∀ l ∈ s, l.isBlank = false

instance (s : List Letter) : Decidable (IsSolid s) :=
  inferInstanceAs (Decidable (∀ l ∈ s, l.isBlank = false))

/-- A note is solid, or it is a solid part, a blank and a note again. -/
@[elab_as_elim]
theorem induction_on_blanks {P : List Letter → Prop} (s : List Letter)
    (last : ∀ w, IsSolid w → P w)
    (more : ∀ w b s, IsSolid w → b.isBlank = true → P s → P (w ++ b :: s)) : P s := by
  have hall (w : List Letter) (hw : IsSolid w) : P (w ++ s) := by
    induction s generalizing w with
    | nil => exact (List.append_nil w).symm ▸ last w hw
    | cons c s ih =>
        by_cases hc : c.isBlank = true
        · exact more w c s hw hc (ih [] (fun l hl => by cases hl))
        · have hsolid : IsSolid (w ++ [c]) := by
            intro l hl
            rcases List.mem_append.1 hl with hl | hl
            · exact hw l hl
            · rw [List.mem_singleton.1 hl]
              exact Bool.not_eq_true _ ▸ hc
          rw [List.append_cons]
          exact ih (w ++ [c]) hsolid
  exact hall [] (fun l hl => by cases hl)

theorem words_append_cons {b : Letter} (hb : b.isBlank = true) (s t : List Letter) :
    words (s ++ b :: t) = words s ++ words t := by
  rw [words, List.splitOnP_append_cons s t hb, List.filter_append]
  rfl

theorem words_of_isSolid {w : List Letter} (h : IsSolid w) :
    words w = if w = [] then [] else [w] := by
  rw [words, List.splitOnP_eq_singleton (fun l hl => h l hl)]
  cases w with
  | nil => rfl
  | cons c w => rfl

/-! ### First occurrences -/

variable {label w rest : List Letter}

/-- What stands in a word behind the first of the places at which it holds a label. -/
def FollowsFirst (label w rest : List Letter) : Prop :=
  ∃ before, w = before ++ (label ++ rest) ∧
    ∀ before' rest', w = before' ++ (label ++ rest') → before.length ≤ before'.length

theorem after?_eq_none_iff : after? label w = none ↔ ¬ label <:+: w := by
  induction w with
  | nil =>
      rw [after?, List.infix_nil]
      by_cases h : label = []
      · simp [h]
      · simp [h]
  | cons c s ih =>
      rw [after?, List.infix_cons_iff, ← List.isPrefixOf_iff_prefix]
      by_cases h : label.isPrefixOf (c :: s) = true
      · simp [h]
      · simp [h, ih]

theorem followsFirst_of_after? (h : after? label w = some rest) : FollowsFirst label w rest := by
  induction w with
  | nil =>
      rw [after?] at h
      obtain ⟨hlabel, hrest⟩ := Option.ite_none_right_eq_some.1 h
      obtain rfl : label = [] := List.isEmpty_iff.1 hlabel
      obtain rfl : [] = rest := Option.some.inj hrest
      exact ⟨[], rfl, fun _ _ _ => Nat.zero_le _⟩
  | cons c s ih =>
      rw [after?] at h
      by_cases hprefix : label.isPrefixOf (c :: s) = true
      · rw [if_pos hprefix] at h
        obtain ⟨t, ht⟩ := List.isPrefixOf_iff_prefix.1 hprefix
        rw [← ht, List.drop_left] at h
        obtain rfl := Option.some.inj h
        exact ⟨[], ht.symm, fun _ _ _ => Nat.zero_le _⟩
      · rw [if_neg hprefix] at h
        obtain ⟨before, rfl, hfirst⟩ := ih h
        refine ⟨c :: before, rfl, fun before' rest' heq => ?_⟩
        cases before' with
        | nil => exact absurd (List.isPrefixOf_iff_prefix.2 ⟨rest', heq.symm⟩) hprefix
        | cons d before' =>
            exact Nat.succ_le_succ (hfirst before' rest' (List.cons.inj heq).2)

/-- A solid label at the start of a text stands in front of every blank. -/
theorem prefix_of_prefix_append_cons (hlabel : IsSolid label) {b : Letter} (hb : b.isBlank = true)
    {s : List Letter} (h : label <+: w ++ b :: s) : label <+: w := by
  have hblank : b ∉ label := fun hmem => Bool.false_ne_true ((hlabel b hmem).symm.trans hb)
  rw [List.append_cons] at h
  rcases List.prefix_or_prefix_of_prefix h (List.prefix_append (w ++ [b]) s) with h | h
  · rcases List.prefix_concat_iff.1 h with rfl | h
    · exact absurd (List.mem_append_right w (List.mem_singleton_self b)) hblank
    · exact h
  · exact absurd (h.subset (List.mem_append_right w (List.mem_singleton_self b))) hblank

theorem after?_append_cons (hne : label ≠ []) (hlabel : IsSolid label) {b : Letter}
    (hb : b.isBlank = true) (w s : List Letter) :
    after? label (w ++ b :: s) =
      match after? label w with
      | some rest => some (rest ++ b :: s)
      | none => after? label s := by
  induction w with
  | nil =>
      have hnot : ¬ label.isPrefixOf (b :: s) = true := by
        intro h
        have hnil : label <+: [] :=
          prefix_of_prefix_append_cons hlabel hb (List.isPrefixOf_iff_prefix.1 h)
        exact hne (List.prefix_nil.1 hnil)
      have hnone : after? label [] = none := by
        rw [after?, if_neg (by simpa using hne)]
      rw [List.nil_append, hnone, after?, if_neg hnot]
  | cons c w ih =>
      have hiff : label.isPrefixOf (c :: (w ++ b :: s)) = true ↔
          label.isPrefixOf (c :: w) = true := by
        rw [List.isPrefixOf_iff_prefix, List.isPrefixOf_iff_prefix]
        exact ⟨fun h => prefix_of_prefix_append_cons (w := c :: w) hlabel hb h,
          fun h => h.trans (List.prefix_append (c :: w) _)⟩
      rw [List.cons_append, after?, after?]
      by_cases h : label.isPrefixOf (c :: w) = true
      · have hlength := (List.isPrefixOf_iff_prefix.1 h).length_le
        rw [if_pos (hiff.2 h), if_pos h, ← List.cons_append, List.drop_append_of_le_length hlength]
      · rw [if_neg (mt hiff.1 h), if_neg h, ih]

/-! ### Tokens -/

/-- The token of a label in some words is what follows the label in the first word that holds it. -/
inductive IsTokenIn (label : List Letter) : List (List Letter) → List Letter → Prop
  | missing {ws : List (List Letter)} (h : ∀ w ∈ ws, ¬ label <:+: w) : IsTokenIn label ws []
  | found {earlier later : List (List Letter)} {w rest : List Letter}
      (h : ∀ v ∈ earlier, ¬ label <:+: v) (hw : FollowsFirst label w rest) :
      IsTokenIn label (earlier ++ w :: later) rest

theorem FollowsFirst.isTokenIn (h : FollowsFirst label w rest) (ws : List (List Letter)) :
    IsTokenIn label (w :: ws) rest :=
  @IsTokenIn.found label [] ws w rest (fun _ hv => by cases hv) h

theorem IsTokenIn.append {ws ws' : List (List Letter)} (h : IsTokenIn label ws' rest)
    (hws : ∀ w ∈ ws, ¬ label <:+: w) : IsTokenIn label (ws ++ ws') rest := by
  cases h with
  | missing h =>
      refine .missing (fun w hw => ?_)
      exact (List.mem_append.1 hw).elim (hws w) (h w)
  | @found earlier later w rest h hw =>
      rw [← List.append_assoc]
      refine .found (fun v hv => ?_) hw
      exact (List.mem_append.1 hv).elim (hws v) (h v)

theorem word_append_of_isSolid (h : IsSolid w) (s : List Letter) : word (w ++ s) = w ++ word s := by
  rw [word, List.takeWhile_append_of_pos (fun l hl => by simp [h l hl])]
  rfl

theorem word_of_isSolid (h : IsSolid w) : word w = w := by
  simpa [word] using word_append_of_isSolid h []

theorem word_append_cons (h : IsSolid w) {b : Letter} (hb : b.isBlank = true) (s : List Letter) :
    word (w ++ b :: s) = w := by
  have hstop : word (b :: s) = [] := List.takeWhile_cons_of_neg (by simp [hb])
  rw [word_append_of_isSolid h, hstop, List.append_nil]

theorem isSolid_of_after? (hw : IsSolid w) (h : after? label w = some rest) : IsSolid rest := by
  obtain ⟨before, rfl, -⟩ := followsFirst_of_after? h
  exact fun l hl => hw l (List.mem_append_right _ (List.mem_append_right _ hl))

theorem not_infix_of_mem_words (h : after? label w = none) (hw : IsSolid w) {v : List Letter}
    (hv : v ∈ words w) : ¬ label <:+: v := by
  rw [words_of_isSolid hw] at hv
  split at hv
  · cases hv
  · rw [List.mem_singleton.1 hv]
    exact after?_eq_none_iff.1 h

/-- The first blank ends either the token or the part in which it has been looked for in vain. -/
theorem isTokenIn_tokenLetters (hne : label ≠ []) (hlabel : IsSolid label) (s : List Letter) :
    IsTokenIn label (words s) (tokenLetters s label) := by
  have hwords {w rest : List Letter} (hw : IsSolid w) (h : after? label w = some rest) :
      words w = [w] := by
    rw [words_of_isSolid hw, if_neg]
    rintro rfl
    exact hne (List.isEmpty_iff.1 (Option.ite_none_right_eq_some.1 h).1)
  unfold tokenLetters
  rw [if_neg (by simpa using hne)]
  induction s using induction_on_blanks with
  | last w hw =>
      cases h : after? label w with
      | none => exact .missing (fun v => not_infix_of_mem_words h hw)
      | some rest =>
          rw [hwords hw h]
          show IsTokenIn label [w] (word rest)
          rw [word_of_isSolid (isSolid_of_after? hw h)]
          exact (followsFirst_of_after? h).isTokenIn []
  | more w b s hw hb ih =>
      rw [words_append_cons hb, after?_append_cons hne hlabel hb]
      cases h : after? label w with
      | none => exact ih.append (fun v => not_infix_of_mem_words h hw)
      | some rest =>
          rw [hwords hw h]
          show IsTokenIn label ([w] ++ words s) (word (rest ++ b :: s))
          rw [word_append_cons (isSolid_of_after? hw h) hb]
          exact (followsFirst_of_after? h).isTokenIn (words s)

/-! ### Words in any order -/

/-- One word starts with a label, which stands nowhere else. -/
structure StandsOnce (label : List Letter) (ws : List (List Letter)) : Prop where
  starts : ws.countP (fun w => label.isPrefixOf w) = 1
  nowhere_else : ∀ w ∈ ws, ¬ label <:+: w.tail

namespace StandsOnce

instance (label : List Letter) (ws : List (List Letter)) : Decidable (StandsOnce label ws) :=
  decidable_of_iff (ws.countP (fun w => label.isPrefixOf w) = 1 ∧ ∀ w ∈ ws, ¬ label <:+: w.tail)
    ⟨fun h => ⟨h.1, h.2⟩, fun h => ⟨h.starts, h.nowhere_else⟩⟩

variable {ws ws' : List (List Letter)} {t t' : List Letter}

theorem perm (h : StandsOnce label ws) (hperm : ws.Perm ws') : StandsOnce label ws' where
  starts := (hperm.countP_eq _).symm.trans h.starts
  nowhere_else := fun w hw => h.nowhere_else w (hperm.mem_iff.2 hw)

/-- The token stands in the one word that starts with the label. -/
theorem append_mem (h : StandsOnce label ws) (ht : IsTokenIn label ws t) : label ++ t ∈ ws := by
  cases ht with
  | missing hnone =>
      have hpos : 0 < ws.countP (fun w => label.isPrefixOf w) := h.starts ▸ Nat.zero_lt_one
      obtain ⟨w, hw, hprefix⟩ := List.countP_pos_iff.1 hpos
      exact absurd (List.isPrefixOf_iff_prefix.1 hprefix).isInfix (hnone w hw)
  | @found earlier later w rest hnone hw =>
      obtain ⟨before, rfl, -⟩ := hw
      cases before with
      | nil => exact List.mem_append_right _ List.mem_cons_self
      | cons c before =>
          have htail := h.nowhere_else _ (List.mem_append_right earlier List.mem_cons_self)
          exact absurd ⟨before, t, (List.append_assoc _ _ _)⟩ htail

theorem eq_of_append_mem (h : StandsOnce label ws) (ht : label ++ t ∈ ws) (ht' : label ++ t' ∈ ws) :
    t = t' := by
  have hcount := h.starts
  rw [List.countP_eq_length_filter] at hcount
  obtain ⟨w, hw⟩ := List.length_eq_one_iff.1 hcount
  have heq (s : List Letter) (hs : label ++ s ∈ ws) : label ++ s = w := by
    have hmem := List.mem_filter.2
      ⟨hs, List.isPrefixOf_iff_prefix.2 (List.prefix_append label s)⟩
    rw [hw] at hmem
    exact List.mem_singleton.1 hmem
  exact List.append_cancel_left ((heq t ht).trans (heq t' ht').symm)

end StandsOnce

def termLabels : List Text := [interestLabel, periodLabel, targetLabel, riskLabel]

theorem tokenLetters_eq_of_perm {note note' : List Letter} (hne : label ≠ [])
    (hlabel : IsSolid label) (honce : StandsOnce label (words note))
    (hperm : (words note).Perm (words note')) :
    tokenLetters note' label = tokenLetters note label := by
  have hmem := honce.append_mem (isTokenIn_tokenLetters hne hlabel note)
  have hmem' := (honce.perm hperm).append_mem (isTokenIn_tokenLetters hne hlabel note')
  exact honce.eq_of_append_mem (hperm.mem_iff.2 hmem') hmem

/-- The terms are a function of the tokens of their labels. -/
theorem Terms.ofNote_congr {note note' : Text}
    (h : ∀ label ∈ termLabels,
      tokenLetters note'.toList label.toList = tokenLetters note.toList label.toList) :
    Terms.ofNote note' = Terms.ofNote note := by
  have hinterest := h interestLabel (by decide)
  have hperiod := h periodLabel (by decide)
  have htarget := h targetLabel (by decide)
  have hrisk := h riskLabel (by decide)
  simp only [Terms.ofNote, number, token, Risk.ofNote, hinterest, hperiod, htarget, hrisk]

theorem termLabels_solid : ∀ label ∈ termLabels, label.toList ≠ [] ∧ IsSolid label.toList := by
  decide

/-- The token of a label is found word by word: it is what follows the label in the first word that
holds it. So notes of the same words, in whatever order and whatever blanks there are between them,
declare the same terms, when each label starts one word and stands nowhere else. -/
theorem tokens_follow_words (note : Text) :
    (∀ label : Text, label.toList ≠ [] → IsSolid label.toList →
      IsTokenIn label.toList (words note.toList) (token note label).toList) ∧
    ∀ note' : Text, (words note.toList).Perm (words note'.toList) →
      (∀ label ∈ termLabels, StandsOnce label.toList (words note.toList)) →
      Terms.ofNote note' = Terms.ofNote note := by
  refine ⟨fun label hne hlabel => isTokenIn_tokenLetters hne hlabel note.toList, ?_⟩
  intro note' hperm honce
  refine Terms.ofNote_congr (fun label hmem => ?_)
  obtain ⟨hne, hlabel⟩ := termLabels_solid label hmem
  exact tokenLetters_eq_of_perm hne hlabel (honce label hmem) hperm

/-- The words of a note from the last to the first, with other blanks between them. -/
theorem tokens_follow_words_reversed :
    IsTokenIn (Text.ofString "Int:").toList
      (words (Text.ofString "live Target:3yr Int:12 Per:M Risk:h").toList) [.char '1', .char '2'] ∧
    Terms.ofNote (Text.ofString "\tRisk:h\u2003Per:M  Int:12\nTarget:3yr live") =
      Terms.ofNote (Text.ofString "live Target:3yr Int:12 Per:M Risk:h") := by
  have h := tokens_follow_words (Text.ofString "live Target:3yr Int:12 Per:M Risk:h")
  refine ⟨?_, h.2 _ (by decide +kernel) (by decide +kernel)⟩
  have htoken := h.1 (Text.ofString "Int:") (by decide +kernel) (by decide +kernel)
  have heq : (token (Text.ofString "live Target:3yr Int:12 Per:M Risk:h") (Text.ofString "Int:")).toList
      = [.char '1', .char '2'] := by
    decide +kernel
  exact heq ▸ htoken

end Appraisal.Note
