import Appraisal.Loan.Listing
import Appraisal.Proofs.Journal.Trace
import Appraisal.Proofs.Sorting
import Appraisal.Proofs.Valuation.Pricing

/-!
# Outcomes of a derivation

The derivation of a loan has one outcome, whatever has been written before it. Postings that are not
empty give a loan of their account, or a fault that a list of loans tolerates.
-/

namespace Appraisal.Loan

open Outcome Journaled

theorem isTolerated_iff {f : Fault} : isTolerated f = true ↔ f.IsTolerable := by
  cases f <;> simp [isTolerated, Fault.IsTolerable]

/-! ### Sums -/

theorem settles_given {α : Type} {P : α → Prop} {x : Except Fault α}
    (h : Sound Fault.IsTolerable P x) :
    Settles Fault.IsTolerable P (given x : Journaled Fault α) := by
  cases x with
  | error e => exact (yields_throw e).settles h
  | ok a => exact settles_pure h

theorem given_eq {α : Type} (x : Except Fault α) : (given x : Except Fault α) = x := by
  cases x <;> rfl

theorem yields_given {α : Type} (x : Except Fault α) :
    Yields (given x : Journaled Fault α) (given x) := by
  rw [given_eq]
  cases x with
  | error e => exact yields_throw e
  | ok a => exact yields_pure a

theorem sound_decimal {α : Type} {x : Except DecimalError α} :
    Sound Fault.IsTolerable (fun _ => True) (x.mapError .decimal) :=
  sound_mapError Fault.isTolerable_decimal (fun _ _ => trivial)

theorem settles_valueOf (rules : List Rule) (now : Moment) (p : Posting) :
    Settles Fault.IsTolerable (fun _ => True) (valueOf rules now p) :=
  (Pricing.settles_marketValue rules p now).bind (fun _ _ => settles_pure trivial)

theorem settles_valueSum (rules : List Rule) (now : Moment) (ps : List Posting) :
    Settles Fault.IsTolerable (fun _ => True) (valueSum (valueOf rules now) ps) :=
  Settles.foldlM (fun _ p =>
    (settles_valueOf rules now p).bind (fun _ _ => settles_given sound_decimal))

theorem sound_wholeDays (start : Date) (now : Moment) :
    Sound Fault.IsTolerable (fun _ => True) (wholeDays start now) :=
  sound_mapError Fault.isTolerable_notIntegral (fun _ _ => trivial)

theorem sound_maturityOf (start : Date) (targetDays : Int) :
    Sound Fault.IsTolerable (fun _ => True) (maturityOf start targetDays) := by
  refine (sound_mapError Fault.isTolerable_time (fun _ _ => trivial)).bind (fun _ _ => ?_)
  split
  · trivial
  · exact Fault.isTolerable_time _

theorem sound_progress (closed : Bool) (start : Date) (targetDays daysHeld : Int) (now : Moment)
    (window : Int) :
    Sound Fault.IsTolerable (fun _ => True)
      (progress closed start targetDays daysHeld now window) := by
  unfold progress
  split
  · trivial
  · split
    · exact (sound_maturityOf start targetDays).bind (fun maturity _ =>
        (sound_wholeDays maturity now).bind (fun _ _ => trivial))
    · trivial

theorem sound_gainOf (closed : Bool) (currentValue principal raw : Decimal) :
    Sound Fault.IsTolerable (fun _ => True) (gainOf closed currentValue principal raw) := by
  refine sound_decimal.bind (fun gain _ => ?_)
  split
  · exact sound_decimal.bind (fun _ _ => trivial)
  · trivial

theorem sound_ofSums (account currency : Text) (first : Posting) (postings : List Posting)
    (principal raw value : Decimal) (now : Moment) (window : Int) :
    Sound Fault.IsTolerable (fun l => l.account = account)
      (ofSums account currency first postings principal raw value now window) := by
  refine sound_decimal.bind (fun nothing _ => ?_)
  refine (sound_mapError Fault.isTolerable_notIntegral (fun _ _ => trivial)).bind
    (fun terms _ => ?_)
  refine (sound_wholeDays _ _).bind (fun daysHeld _ => ?_)
  refine (sound_progress _ _ _ _ _ _).bind (fun progress _ => ?_)
  exact (sound_gainOf _ _ _ _).bind (fun gain _ => rfl)

/-! ### Derivations -/

theorem chronological_ne_nil {ps : List Posting} (h : ps ≠ []) : chronological ps ≠ [] := by
  intro hc
  have hperm := perm_sorted (fun p q : Posting => decide (p.date.day < q.date.day)) ps
  have hnil : sorted (fun p q : Posting => decide (p.date.day < q.date.day)) ps = [] := hc
  rw [hnil] at hperm
  exact h hperm.nil_eq.symm

theorem settles_ofPostings? (account : Text) {ps : List Posting} (hps : ps ≠ []) (now : Moment)
    (rules : List Rule) (currency : Text) (window : Int) :
    Settles Fault.IsTolerable (fun o => ∃ l : Loan, o = some l ∧ l.account = account)
      (ofPostings? account ps now (valueOf rules now) currency window) := by
  unfold ofPostings?
  cases hc : chronological ps with
  | nil => exact absurd hc (chronological_ne_nil hps)
  | cons first rest =>
      refine (settles_given sound_decimal).bind (fun principal _ => ?_)
      refine (settles_given sound_decimal).bind (fun raw _ => ?_)
      have hloan (value : Decimal) := (settles_given (sound_ofSums account currency first
        (first :: rest) principal raw value now window)).bind (f := fun l => pure (some l))
          (fun l hl => settles_pure (P := fun o => ∃ l : Loan, o = some l ∧ l.account = account)
            ⟨l, rfl, hl⟩)
      dsimp only
      split
      · exact hloan raw
      · exact (settles_valueSum rules now _).bind (fun value _ => hloan value)

section

variable {valueOf : Posting → Journaled Fault Decimal} {value : Posting → Except Fault Decimal}
  (hvalue : ∀ p, Yields (valueOf p) (value p))
include hvalue

theorem yields_valueSum (ps : List Posting) :
    Yields (valueSum valueOf ps) (valueSum value ps) := by
  unfold valueSum
  generalize Decimal.zero = total
  induction ps generalizing total with
  | nil => exact yields_pure total
  | cons p ps ih =>
      rw [List.foldlM_cons, List.foldlM_cons]
      exact ((hvalue p).bind (fun _ _ => yields_given _)).bind (fun next _ => ih next)

/-- What a journal is written along with a derivation does not bear on the loan. -/
theorem yields_ofPostings? (account : Text) (ps : List Posting) (now : Moment) (currency : Text)
    (window : Int) :
    Yields (ofPostings? account ps now valueOf currency window)
      (ofPostings? account ps now value currency window) := by
  unfold ofPostings?
  cases chronological ps with
  | nil => exact yields_pure none
  | cons first rest =>
      refine (yields_given _).bind (fun principal _ => (yields_given _).bind (fun raw _ => ?_))
      have hloan (total : Decimal) := (yields_given (ofSums account currency first (first :: rest)
        principal raw total now window)).bind (fun l _ => yields_pure (some l))
      by_cases hmarked : isMarkedClosed (first :: rest) = true
      · simp only [if_pos hmarked]
        exact (yields_pure raw).bind (fun total _ => hloan total)
      · simp only [if_neg hmarked]
        exact (yields_valueSum hvalue (first :: rest)).bind (fun total _ => hloan total)

end

def inputs (account : Text) (ps : List Posting) (now : Moment) : List (Text × Datum) :=
  [("account", .text account), ("postings", .list (ps.map (fun p => .text p.shown))),
    ("now", .moment now)]

/-- The inputs can be written as texts, and these are plain when the account is. -/
theorem exists_canonical_input (account : Text) (ps : List Posting) (now : Moment) :
    ∀ i ∈ inputs account ps now,
      ∃ t, Fingerprint.canonical i.2 = .ok t ∧ (account.IsPlain → t.IsPlain) := by
  have hitems := Fingerprint.canonicalItems_texts (ps.map (fun p => (p.shown : Text)))
  rw [List.map_map] at hitems
  intro i hi
  simp only [inputs, List.mem_cons, List.not_mem_nil, or_false] at hi
  rcases hi with rfl | rfl | rfl
  · exact ⟨account, rfl, id⟩
  · refine ⟨"[" ++ Text.intercalate "," (ps.map (fun p => (p.shown : Text))) ++ "]", ?_, fun _ => ?_⟩
    · rw [Fingerprint.canonical]
      exact congrArg _ hitems
    · refine ((Text.isPlain_ofString "[").append ?_).append (Text.isPlain_ofString "]")
      apply Text.isPlain_intercalate (Text.isPlain_ofString ",")
      intro t ht
      obtain ⟨p, -, rfl⟩ := List.mem_map.1 ht
      exact Text.isPlain_ofString p.shown
  · exact ⟨now.text, rfl, fun _ => Text.isPlain_ofString now.text⟩

/-- The run of a derivation can be told by its inputs when the account is plain. -/
theorem exists_fingerprint_inputs {account : Text} (h : account.IsPlain) (ps : List Posting)
    (now : Moment) : ∃ f, engine.fingerprint (inputs account ps now) = .ok f := by
  apply Journal.Engine.exists_fingerprint
  · intro f hf
    simp only [engine, List.mem_cons, List.not_mem_nil, or_false] at hf
    rcases hf with rfl | rfl | rfl <;> exact Text.isPlain_ofString _
  · intro i hi
    obtain ⟨t, ht, hplain⟩ := exists_canonical_input account ps now i hi
    exact ⟨t, ht, hplain h⟩

/-- Only an account that cannot be written as bytes stops a derivation from being told. -/
theorem isPlain_of_fingerprint_inputs {account : Text} {ps : List Posting} {now : Moment}
    {f : String} (h : engine.fingerprint (inputs account ps now) = .ok f) : account.IsPlain := by
  obtain ⟨t, ht, hstring⟩ := bind_eq_ok_iff.1 h
  obtain ⟨parts, hparts, ht⟩ := bind_eq_ok_iff.1 ht
  obtain ⟨part, hpart, hrest⟩ := bind_eq_ok_iff.1 hparts
  obtain ⟨rest, -, hparts⟩ := bind_eq_ok_iff.1 hrest
  obtain rfl := Except.ok.inj ht
  obtain rfl := Except.ok.inj hparts
  obtain rfl : "account" ++ "=" ++ account = part := Except.ok.inj hpart
  split at hstring
  · rename_i s hs
    exact (Text.isPlain_append_iff.1
      (Text.isPlain_of_intercalate_cons (Text.isPlain_of_string? hs))).2
  · cases hstring

/-- The derivation of a loan of postings gives a loan of their account, or a fault that is
tolerated. -/
theorem settles_derive? (account : Text) {ps : List Posting} (hps : ps ≠ []) (now : Moment)
    (rules : List Rule) (currency : Text) (window : Int) :
    Settles Fault.IsTolerable (fun o => ∃ l : Loan, o = some l ∧ l.account = account)
      (derive? account ps now (valueOf rules now) currency window) := by
  have hinputs (i : Text × Datum) (hi : i ∈ inputs account ps now) :=
    (exists_canonical_input account ps now i hi).imp (fun _ ht => ht.1)
  refine engine.settles_traced hinputs
    (fun _ => Fault.isTolerable_refusal (by simp [Refusal.family])) ?_
  refine (settles_ofPostings? account hps now rules currency window).bind (fun o ho => ?_)
  obtain ⟨l, rfl, hl⟩ := ho
  exact settles_note.bind (fun _ _ => settles_pure ⟨l, rfl, hl⟩)

end Appraisal.Loan
