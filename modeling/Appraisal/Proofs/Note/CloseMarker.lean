import Appraisal.Proofs.Loan.Coherence
import Appraisal.Proofs.Note.Words

/-!
# Close markers

A marker is looked for in the small form of all notes together. The small form of a character beyond
ASCII has no letter of a marker in it, so a marker is found there just where its letters stand, small or
capital. As a marker holds no blank, it stands in one of the notes. The main statements:
`infix_lowered_iff` and `hasCloseMarker_iff`.
-/

namespace Appraisal

/-! ### Small forms -/

namespace Text

/-- An ASCII character that stands only where it or its capital letter stood before. The capital I with a
dot starts with an i in the small form, and the Kelvin sign is a k there. -/
def IsSteady (l : Letter) : Prop := l.code < 0x80 ∧ l ≠ .char 'i' ∧ l ≠ .char 'k'

instance : DecidablePred IsSteady := fun l =>
  inferInstanceAs (Decidable (l.code < 0x80 ∧ l ≠ .char 'i' ∧ l ≠ .char 'k'))

def asciiLowered (s : List Letter) : List Letter := s.map (Letter.mapChar Char.toLower)

structure CapitalRun.LeadsBeyond (r : CapitalRun) : Prop where
  beyond : 0x80 ≤ r.first + r.distance
  isChar : r.last + r.distance < 0xD800 ∨
    0xE000 ≤ r.first + r.distance ∧ r.last + r.distance < 0x110000

instance (r : CapitalRun) : Decidable r.LeadsBeyond :=
  decidable_of_iff (0x80 ≤ r.first + r.distance ∧ (r.last + r.distance < 0xD800 ∨
    0xE000 ≤ r.first + r.distance ∧ r.last + r.distance < 0x110000))
    ⟨fun h => ⟨h.1, h.2⟩, fun h => ⟨h.beyond, h.isChar⟩⟩

/-- All runs lead to characters beyond ASCII, but for the Kelvin sign. -/
theorem leadsBeyond_or_kelvin : ∀ r ∈ capitalRuns, r.LeadsBeyond ∨
    r.first = 0x212A ∧ r.last = 0x212A ∧ r.small 0x212A = 'k' := by
  decide +kernel

theorem CapitalRun.mem_of_holds {r : CapitalRun} {n : Nat} (h : r.holds n = true) :
    r.first ≤ n ∧ n ≤ r.last := by
  simp only [holds, Bool.and_eq_true, decide_eq_true_eq] at h
  exact h.1

theorem not_isSteady_of_le {c : Char} (h : 0x80 ≤ c.toNat) : ¬ IsSteady (.char c) :=
  fun hsteady => absurd hsteady.1 (Nat.not_lt.2 h)

theorem CapitalRun.not_isSteady_small {r : CapitalRun} {n : Nat} (hr : r ∈ capitalRuns)
    (hn : r.holds n = true) : ¬ IsSteady (.char (r.small n)) := by
  obtain ⟨hfirst, hlast⟩ := mem_of_holds hn
  rcases leadsBeyond_or_kelvin r hr with hbeyond | ⟨hkelvin, hkelvin', hk⟩
  · have hlow := hbeyond.beyond
    have hchar := hbeyond.isChar
    apply not_isSteady_of_le
    rw [small, Letter.toNat_ofNat]
    · omega
    · simp only [Nat.isValidChar]
      omega
  · obtain rfl : n = 0x212A := by omega
    rw [hk]
    exact fun hsteady => hsteady.2.2 rfl

theorem not_isSteady_smallLetter {c : Char} (h : 0x80 ≤ c.toNat) :
    ¬ IsSteady (.char (smallLetter c)) := by
  unfold smallLetter
  rw [if_neg (Nat.not_lt.2 h)]
  split
  · rename_i r hr
    have hholds : r.holds c.toNat = true := by simpa using List.find?_some hr
    exact CapitalRun.not_isSteady_small (List.mem_of_find?_eq_some hr) hholds
  · exact not_isSteady_of_le h

theorem toLower_of_le {c : Char} (h : 0x80 ≤ c.toNat) : c.toLower = c := by
  apply Char.toLower_eq_of_not_isUpper
  intro hupper
  simp only [Char.isUpper, Bool.decide_and, Bool.and_eq_true, decide_eq_true_eq] at hupper
  have hle : c.toNat ≤ 'Z'.toNat := hupper.2
  exact absurd (h.trans hle) (by decide)

theorem smallLetter_of_lt {c : Char} (h : c.toNat < 0x80) : smallLetter c = c.toLower := by
  unfold smallLetter
  rw [if_pos h]

/-- A letter keeps the small form that it has in ASCII. Otherwise it is beyond ASCII, and no steady
letter stands for it. -/
theorem smallForm_cases (before after : List Letter) (l : Letter) :
    smallForm before l after = [l.mapChar Char.toLower] ∨
      smallForm before l after ≠ [] ∧ (∀ b ∈ smallForm before l after, ¬ IsSteady b) ∧
        ¬ IsSteady (l.mapChar Char.toLower) := by
  cases l with
  | surrogate i => exact .inl rfl
  | char c =>
      by_cases hascii : c.toNat < 0x80
      · have hdot : Letter.char c ≠ .char '\u0130' := by
          rintro ⟨⟩
          exact absurd hascii (by decide)
        have hsigma : Letter.char c ≠ .char 'Σ' := by
          rintro ⟨⟩
          exact absurd hascii (by decide)
        left
        rw [smallForm, if_neg hdot, if_neg hsigma, Letter.mapChar, smallLetter_of_lt hascii]
        rfl
      · have hbeyond : 0x80 ≤ c.toNat := Nat.not_lt.1 hascii
        have hl : ¬ IsSteady ((Letter.char c).mapChar Char.toLower) := by
          rw [Letter.mapChar, toLower_of_le hbeyond]
          exact not_isSteady_of_le hbeyond
        right
        unfold smallForm
        split
        · exact ⟨List.cons_ne_nil _ _, by decide, hl⟩
        · split
          · split
            · exact ⟨List.cons_ne_nil _ _, by decide, hl⟩
            · exact ⟨List.cons_ne_nil _ _, by decide, hl⟩
          · refine ⟨List.cons_ne_nil _ _, fun b hb => ?_, hl⟩
            rw [List.mem_singleton.1 hb]
            exact not_isSteady_smallLetter hbeyond

/-- The second letters stand for the first ones: each letter stands for itself, or some letters of which
none is steady stand for one that is not steady. -/
inductive StandFor : List Letter → List Letter → Prop
  | nil : StandFor [] []
  | same (l : Letter) {s t : List Letter} (h : StandFor s t) : StandFor (l :: s) (l :: t)
  | other {l : Letter} {block s t : List Letter} (hl : ¬ IsSteady l) (hne : block ≠ [])
      (hblock : ∀ b ∈ block, ¬ IsSteady b) (h : StandFor s t) : StandFor (l :: s) (block ++ t)

theorem standFor_loweredAfter (before s : List Letter) :
    StandFor (asciiLowered s) (loweredAfter before s) := by
  induction s generalizing before with
  | nil => exact .nil
  | cons l s ih =>
      rw [loweredAfter]
      rcases smallForm_cases before s l with heq | ⟨hne, hblock, hl⟩
      · rw [heq]
        exact .same _ (ih _)
      · exact .other hl hne hblock (ih _)

variable {s t w block : List Letter}

theorem not_prefix_append (hne : w ≠ []) (hw : ∀ l ∈ w, IsSteady l) (hb : block ≠ [])
    (hblock : ∀ b ∈ block, ¬ IsSteady b) (t : List Letter) : ¬ w <+: block ++ t := by
  intro h
  obtain ⟨l, w, rfl⟩ := List.exists_cons_of_ne_nil hne
  obtain ⟨b, block, rfl⟩ := List.exists_cons_of_ne_nil hb
  obtain rfl := (List.cons_prefix_cons.1 h).1
  exact hblock l List.mem_cons_self (hw l List.mem_cons_self)

theorem infix_append_iff_right (hne : w ≠ []) (hw : ∀ l ∈ w, IsSteady l)
    (hblock : ∀ b ∈ block, ¬ IsSteady b) (t : List Letter) : w <:+: block ++ t ↔ w <:+: t := by
  induction block with
  | nil => exact Iff.rfl
  | cons b block ih =>
      rw [List.cons_append, List.infix_cons_iff,
        ih (fun b' hb' => hblock b' (List.mem_cons_of_mem b hb'))]
      exact or_iff_right (not_prefix_append hne hw (List.cons_ne_nil b block) hblock t)

theorem StandFor.prefix_iff (h : StandFor s t) (hw : ∀ l ∈ w, IsSteady l) : w <+: t ↔ w <+: s := by
  induction h generalizing w with
  | nil => exact Iff.rfl
  | same l h ih =>
      cases w with
      | nil => exact iff_of_true List.nil_prefix List.nil_prefix
      | cons m w =>
          rw [List.cons_prefix_cons, List.cons_prefix_cons,
            ih (fun l' hl' => hw l' (List.mem_cons_of_mem m hl'))]
  | @other l block s t hl hb hblock h ih =>
      by_cases hne : w = []
      · rw [hne]
        exact iff_of_true List.nil_prefix List.nil_prefix
      · exact iff_of_false (not_prefix_append hne hw hb hblock t)
          (not_prefix_append hne hw (List.cons_ne_nil l []) (by simpa using hl) s)

theorem StandFor.infix_iff (h : StandFor s t) (hne : w ≠ []) (hw : ∀ l ∈ w, IsSteady l) :
    w <:+: t ↔ w <:+: s := by
  induction h with
  | nil => exact Iff.rfl
  | same l h ih => rw [List.infix_cons_iff, List.infix_cons_iff, (h.same l).prefix_iff hw, ih]
  | @other l block s t hl hb hblock h ih =>
      have hsingle : ∀ b ∈ [l], ¬ IsSteady b := by simpa using hl
      rw [infix_append_iff_right hne hw hblock, ih]
      exact (infix_append_iff_right hne hw hsingle s).symm

/-- A word of steady letters stands in the small form of a text where it stands in the text with small
ASCII letters. -/
theorem infix_lowered_iff (hne : w ≠ []) (hw : ∀ l ∈ w, IsSteady l) (t : Text) :
    w <:+: t.lowered.toList ↔ w <:+: asciiLowered t.toList :=
  (standFor_loweredAfter [] t.toList).infix_iff hne hw

end Text

/-! ### Notes -/

namespace Note

open Text

variable {label : List Letter}

theorem occursIn_eq_true_iff {s : List Letter} : occursIn label s = true ↔ label <:+: s := by
  induction s with
  | nil => rw [occursIn, List.isEmpty_iff, List.infix_nil]
  | cons c s ih =>
      rw [occursIn, Bool.or_eq_true, ih, List.isPrefixOf_iff_prefix, List.infix_cons_iff]

/-- A solid label stands on one side of a blank. -/
theorem infix_append_cons_iff (hne : label ≠ []) (hlabel : IsSolid label) {b : Letter}
    (hb : b.isBlank = true) (w s : List Letter) :
    label <:+: w ++ b :: s ↔ label <:+: w ∨ label <:+: s := by
  have hcut {v : List Letter} : label <+: v ++ b :: s ↔ label <+: v :=
    ⟨prefix_of_prefix_append_cons hlabel hb, fun h => h.trans (List.prefix_append v _)⟩
  induction w with
  | nil =>
      have hnil : ¬ label <+: b :: s := fun h => hne (List.prefix_nil.1 (hcut (v := []).1 h))
      rw [List.nil_append, List.infix_cons_iff, List.infix_nil, or_iff_right hnil, or_iff_right hne]
  | cons c w ih =>
      have hstart : label <+: c :: (w ++ b :: s) ↔ label <+: c :: w := hcut (v := c :: w)
      rw [List.cons_append, List.infix_cons_iff, hstart, List.infix_cons_iff, or_assoc]
      exact or_congr_right ih

theorem toList_joined_cons_cons (n n' : Text) (notes : List Text) :
    (joined (n :: n' :: notes)).toList = n.toList ++ .char ' ' :: (joined (n' :: notes)).toList := by
  simp [joined, Text.intercalate, Text.ofString]

theorem toList_joined_singleton (n : Text) : (joined [n]).toList = n.toList := by
  simp [joined, Text.intercalate]

/-- It stands in joined notes exactly if it stands in one of them. -/
theorem infix_joined_iff (hne : label ≠ []) (hlabel : IsSolid label) (notes : List Text) :
    label <:+: (joined notes).toList ↔ ∃ n ∈ notes, label <:+: n.toList := by
  induction notes with
  | nil => simpa [joined, Text.intercalate] using hne
  | cons n notes ih =>
      cases notes with
      | nil => simp [toList_joined_singleton]
      | cons n' notes =>
          rw [toList_joined_cons_cons, infix_append_cons_iff hne hlabel (by decide), ih]
          exact (List.exists_mem_cons_iff (fun m : Text => label <:+: m.toList) n _).symm

def asciiForm (note : Text) : Text := ⟨asciiLowered note.toList⟩

theorem asciiLowered_joined (notes : List Text) :
    asciiLowered (joined notes).toList = (joined (notes.map asciiForm)).toList := by
  induction notes with
  | nil => rfl
  | cons n notes ih =>
      cases notes with
      | nil => simp [toList_joined_singleton, asciiForm]
      | cons n' notes =>
          rw [List.map_cons] at ih
          rw [List.map_cons, List.map_cons, toList_joined_cons_cons, toList_joined_cons_cons, ← ih]
          simp [asciiLowered, asciiForm, Letter.mapChar]

/-! ### Markers -/

/-- A word stands in a text, each of its letters small or capital. -/
def HoldsInAnyCase (t : Text) (word : String) : Prop :=
  ∃ part, part <:+: t.toList ∧
    List.Forall₂ (fun l c => l = .char c ∨ l = .char c.toUpper) part word.toList

/-- A note says of its own that a loan is closed. -/
def IsMarked (note : Text) : Prop :=
  HoldsInAnyCase note "closed" ∨ HoldsInAnyCase note "settled"

theorem mapChar_toLower_eq_iff {l : Letter} {c : Char} (hc : c.isLower = true) :
    .char c = l.mapChar Char.toLower ↔ l = .char c ∨ l = .char c.toUpper := by
  cases l with
  | surrogate i => simp [Letter.mapChar]
  | char d =>
      simp only [Letter.mapChar, Letter.char.injEq]
      constructor
      · rintro rfl
        by_cases hd : d.isUpper = true
        · rw [Char.toUpper_toLower_eq_toUpper,
            Char.toUpper_eq_of_not_isLower (Char.not_isLower_of_isUpper hd)]
          exact .inr rfl
        · rw [Char.toLower_eq_of_not_isUpper hd]
          exact .inl rfl
      · have hsmall : c.toLower = c := Char.toLower_eq_of_not_isUpper (Char.not_isUpper_of_isLower hc)
        rintro (rfl | rfl)
        · exact hsmall.symm
        · rw [Char.toLower_toUpper_eq_toLower, hsmall]

theorem forall₂_iff_map_eq {part : List Letter} {cs : List Char} (hcs : ∀ c ∈ cs, c.isLower = true) :
    List.Forall₂ (fun l c => l = .char c ∨ l = .char c.toUpper) part cs ↔
      cs.map .char = asciiLowered part := by
  induction cs generalizing part with
  | nil =>
      rw [List.forall₂_nil_right_iff, List.map_nil, asciiLowered]
      exact List.map_eq_nil_iff.symm.trans eq_comm
  | cons c cs ih =>
      rw [List.forall_mem_cons] at hcs
      cases part with
      | nil => simp [asciiLowered]
      | cons l part =>
          rw [List.forall₂_cons, ih hcs.2, ← mapChar_toLower_eq_iff hcs.1]
          exact (List.cons_eq_cons).symm

theorem holdsInAnyCase_iff {word : String} (hword : word.toList.all Char.isLower = true) (t : Text) :
    HoldsInAnyCase t word ↔ (ofString word).toList <:+: asciiLowered t.toList := by
  unfold asciiLowered
  rw [List.infix_map_iff]
  have hsmall := List.all_eq_true.1 hword
  exact exists_congr (fun part => and_congr_right (fun _ => forall₂_iff_map_eq hsmall))

theorem isMarked_iff {note : Text} :
    IsMarked note ↔ ∃ m ∈ closeMarkers, m.toList <:+: asciiLowered note.toList := by
  unfold IsMarked
  rw [holdsInAnyCase_iff (by decide), holdsInAnyCase_iff (by decide)]
  simp [closeMarkers]

theorem closeMarkers_steady : ∀ m ∈ closeMarkers,
    m.toList ≠ [] ∧ IsSolid m.toList ∧ ∀ l ∈ m.toList, IsSteady l := by
  decide

theorem hasCloseMarker_iff_exists_mem (notes : List Text) :
    hasCloseMarker notes = true ↔ ∃ n ∈ notes, IsMarked n := by
  have hmarker (m : Text) (hm : m ∈ closeMarkers) : contains (joined notes).lowered m = true ↔
      ∃ n ∈ notes, m.toList <:+: asciiLowered n.toList := by
    obtain ⟨hne, hsolid, hsteady⟩ := closeMarkers_steady m hm
    rw [contains, occursIn_eq_true_iff, infix_lowered_iff hne hsteady, asciiLowered_joined,
      infix_joined_iff hne hsolid]
    simp only [List.mem_map, exists_exists_and_eq_and, asciiForm]
  unfold hasCloseMarker
  rw [List.any_eq_true]
  simp only [isMarked_iff]
  constructor
  · rintro ⟨m, hm, hcontains⟩
    obtain ⟨n, hn, hstands⟩ := (hmarker m hm).1 hcontains
    exact ⟨n, hn, m, hm, hstands⟩
  · rintro ⟨n, hn, m, hm, hstands⟩
    exact ⟨m, hm, (hmarker m hm).2 ⟨n, hn, hstands⟩⟩

end Note

/-! ### Loans -/

namespace Loan

open Note (IsMarked)

variable {ps : List Posting}

/-- A posting is marked by its own note or by that of its transaction. -/
theorem isMarkedClosed_iff_isMarked {qs : List Posting} (h : ps.Perm qs) :
    isMarkedClosed ps = true ↔ ∃ p ∈ qs, IsMarked p.transactionNote ∨ IsMarked p.note := by
  rw [isMarkedClosed_iff h]
  simp [Note.hasCloseMarker_iff_exists_mem]

/-- The postings of a loan mark it as closed if a note of one of the given postings is marked. -/
theorem isMarked_of_run_derive? {account currency : Text} {now : Moment} {window : Int}
    {valueOf : Posting → Journaled Fault Decimal} {s s' : JournalState} {l : Loan}
    (h : (derive? account ps now valueOf currency window).run s = (.ok (some l), s')) :
    (isMarkedClosed l.postings = true ↔ ∃ p ∈ ps, IsMarked p.transactionNote ∨ IsMarked p.note) ∧
    (isMarkedClosed l.postings = true → l.status = .closed) := by
  obtain ⟨raw, terms, hcoherent⟩ := exists_coherent_of_run_derive? h
  refine ⟨isMarkedClosed_iff_isMarked hcoherent.byDate.perm, fun hmarked => ?_⟩
  exact hcoherent.closed_iff.2 (.inl ((isMarkedClosed_iff hcoherent.byDate.perm).1 hmarked))

end Loan

namespace Note

open Text

/-- Notes carry a close marker exactly if one of them does on its own. So their order does not matter,
and one more note never takes a marker away. A loan is marked as closed, and then is closed, if the note
or the transaction note of one of its postings is marked. -/
theorem hasCloseMarker_iff (notes : List Text) :
    (hasCloseMarker notes = true ↔ ∃ n ∈ notes, IsMarked n) ∧
    (∀ others : List Text, others.Perm notes → hasCloseMarker others = hasCloseMarker notes) ∧
    (∀ (earlier later : List Text) (n : Text), notes = earlier ++ later →
      hasCloseMarker notes = true → hasCloseMarker (earlier ++ n :: later) = true) ∧
    (∀ ps : List Posting, Loan.isMarkedClosed (Loan.chronological ps) = true ↔
      ∃ p ∈ ps, IsMarked p.transactionNote ∨ IsMarked p.note) ∧
    ∀ (account currency : Text) (ps : List Posting) (now : Moment) (window : Int)
      (valueOf : Posting → Journaled Fault Decimal) (s s' : JournalState) (l : Loan),
      (Loan.derive? account ps now valueOf currency window).run s = (.ok (some l), s') →
        (Loan.isMarkedClosed l.postings = true ↔
          ∃ p ∈ ps, IsMarked p.transactionNote ∨ IsMarked p.note) ∧
        (Loan.isMarkedClosed l.postings = true → l.status = .closed) := by
  refine ⟨hasCloseMarker_iff_exists_mem notes, fun others hperm => ?_, ?_,
    fun ps => Loan.isMarkedClosed_iff_isMarked (Loan.isByDate_chronological ps).perm,
    fun _ _ _ _ _ _ _ _ _ hrun => Loan.isMarked_of_run_derive? hrun⟩
  · rw [Bool.eq_iff_iff, hasCloseMarker_iff_exists_mem, hasCloseMarker_iff_exists_mem]
    simp only [hperm.mem_iff]
  · rintro earlier later n rfl
    rw [hasCloseMarker_iff_exists_mem, hasCloseMarker_iff_exists_mem]
    rintro ⟨m, hm, hmarked⟩
    have hmore : (earlier ++ later).Sublist (earlier ++ n :: later) :=
      (List.sublist_cons_self n later).append_left earlier
    exact ⟨m, hmore.subset hm, hmarked⟩

/-- A marker that is split between two notes does not count, and one in another case does. -/
theorem hasCloseMarker_iff_of_reordered :
    let split : List Text := ["clo", "sed \u0130"]
    let marked : List Text := ["un-SeTTLed", "clo", "sed \u0130"]
    hasCloseMarker split = false ∧ hasCloseMarker marked = true ∧
      hasCloseMarker ["clo", "un-SeTTLed", "sed \u0130"] = true ∧
      hasCloseMarker ["un-SeTTLed", "\u212Alo", "clo", "sed \u0130"] = true := by
  intro split marked
  have hmarked : hasCloseMarker marked = true := by decide +kernel
  obtain ⟨-, hperm, hmore, -⟩ := hasCloseMarker_iff marked
  refine ⟨by decide +kernel, hmarked, ?_, hmore ["un-SeTTLed"] ["clo", "sed \u0130"] _ rfl hmarked⟩
  rw [hperm _ (List.Perm.swap _ _ _), hmarked]

end Note

end Appraisal
