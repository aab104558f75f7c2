import Appraisal.Proofs.Decimal.Exact
import Appraisal.Proofs.Decimal.Sum
import Appraisal.Proofs.Ledger.Storage
import Appraisal.Proofs.Loan.Coherence

/-!
# Principal and balance

What was lent and what a closed loan stands at are running sums of the amounts by date. They are exact
when twenty-eight digits hold the sums of the amounts. Otherwise their error is that of so many
roundings, also for amounts that their column in the ledger holds. The main statement:
`isBalanced_of_derive?`.
-/

namespace Appraisal.Loan

open Decimal Outcome Journaled

variable {ps qs : List Posting}

def amounts (ps : List Posting) : List ℚ := ps.map (fun p => p.amount.toRat)

def lendings (ps : List Posting) : List Posting :=
  ps.filter (fun p => decide (0 < p.amount.toRat))

theorem length_amounts (ps : List Posting) : (amounts ps).length = ps.length := List.length_map _

theorem map_toRat_amount (ps : List Posting) : (ps.map Posting.amount).map toRat = amounts ps :=
  List.map_map

theorem perm_amounts (h : ps.Perm qs) : (amounts ps).Perm (amounts qs) := h.map _

theorem filter_chronological (keep : Posting → Bool) (ps : List Posting) :
    (chronological ps).filter keep = chronological (ps.filter keep) := by
  unfold chronological
  apply filter_sorted
  · intro p q r hpq hqr
    simp only [decide_eq_true_eq] at *
    omega
  · simp
  · intro p q r hpq hrq
    simp only [decide_eq_true_eq, decide_eq_false_iff_not] at *
    omega

theorem isPositive_eq {p : Posting} (h : p.amount.isFinite = true) :
    p.isPositive = .ok (decide (0 < p.amount.toRat)) := by
  have hcompare := compare?_eq (show p.amount.HasValue p.amount.toRat from ⟨h, rfl⟩) hasValue_zero
  unfold Posting.isPositive order
  rw [hcompare]
  rcases lt_trichotomy p.amount.toRat 0 with hneg | hzero | hpos
  · rw [compare_lt_iff_lt.2 hneg, decide_eq_false hneg.not_gt]
    rfl
  · rw [compare_eq_iff_eq.2 hzero, hzero]
    rfl
  · rw [compare_gt_iff_gt.2 hpos, decide_eq_true hpos]
    rfl

/-- What was lent is the sum of the amounts that add to the account. -/
theorem principalOf_eq_sum (h : ∀ p ∈ ps, p.amount.isFinite = true) :
    principalOf ps = sum ((lendings ps).map Posting.amount) := by
  unfold principalOf sum lendings
  generalize zero = start
  induction ps generalizing start with
  | nil => rfl
  | cons p ps ih =>
      rw [List.forall_mem_cons] at h
      rw [List.foldlM_cons, isPositive_eq h.1, ok_bind]
      by_cases hpos : 0 < p.amount.toRat
      · rw [List.filter_cons_of_pos (by simpa using hpos), List.map_cons, List.foldlM_cons,
          if_pos (decide_eq_true hpos)]
        exact bind_congr (fun next => ih h.2 next)
      · rw [List.filter_cons_of_neg (by simpa using hpos), if_neg (by simpa using hpos)]
        exact ih h.2 start

/-- What the amounts of postings are summed up to: their running sum by date, near to the exact one and
equal to it when the sums of the amounts are held. -/
structure IsTotal (d : Decimal) (ps : List Posting) : Prop where
  running : d.HasValue (runningSum 0 (amounts (chronological ps)))
  error : |d.toRat - (amounts ps).sum| ≤ errorShare ps.length * ((amounts ps).map abs).sum
  exact : SumsFit (ps.map Posting.amount) → d.HasValue (amounts ps).sum

theorem isTotal_of_sum {d : Decimal} (hfits : ∀ p ∈ ps, Row.Fits p.amount)
    (h : sum ((chronological ps).map Posting.amount) = .ok d) : IsTotal d ps := by
  have hperm := (isByDate_chronological ps).perm
  have hsum : (amounts (chronological ps)).sum = (amounts ps).sum := (perm_amounts hperm).sum_eq
  have hfits' : ∀ p ∈ chronological ps, Row.Fits p.amount :=
    fun p hp => hfits p (hperm.mem_iff.1 hp)
  have hrunning : d.HasValue (runningSum 0 (amounts (chronological ps))) := by
    rw [← map_toRat_amount]
    refine hasValue_foldlM_add (fun a ha => ?_) hasValue_zero h
    obtain ⟨p, hp, rfl⟩ := List.mem_map.1 ha
    exact (hfits' p hp).finite
  refine ⟨hrunning, ?_, fun hfit => ?_⟩
  · have hstart : IsMultiple (-9) 0 := ⟨0, by simp⟩
    have hplaces : ∀ q ∈ amounts (chronological ps), IsMultiple (-9) q := by
      intro q hq
      obtain ⟨p, hp, rfl⟩ := List.mem_map.1 hq
      exact (hfits' p hp).places
    have herror := abs_runningSum_sub_le (by decide) hstart hplaces
    rwa [zero_add, abs_zero, zero_add, hsum, (perm_amounts hperm).length_eq, length_amounts,
      ((perm_amounts hperm).map abs).sum_eq, ← hrunning.2] at herror
  · obtain ⟨total, htotal, hexact⟩ := (hfit.subperm (hperm.map _).subperm).exists_sum
    obtain rfl := ok_unique h htotal
    rwa [IsSum, map_toRat_amount, hsum] at hexact

/-- What was lent, and what a closed loan stands at, for the postings it is derived from. -/
structure IsBalanced (ps : List Posting) (l : Loan) : Prop where
  principal : IsTotal l.principal (lendings ps)
  currentValue : l.status = .closed → IsTotal l.currentValue ps

section

variable {account currency : Text} {now : Moment} {window : Int}
  {valueOf : Posting → Journaled Fault Decimal} {s s' : JournalState}

theorem isBalanced_of_ofPostings? {o : Option Loan} (hps : ps ≠ [])
    (hfits : ∀ p ∈ ps, Row.Fits p.amount)
    (h : (ofPostings? account ps now valueOf currency window).run s = (.ok o, s')) :
    ∃ l, o = some l ∧ IsBalanced ps l := by
  obtain ⟨first, rest, principal, raw, value, l, hc, hprincipal, hraw, -, hvalue, hl, rfl⟩ :=
    exists_ofSums_of_ofPostings? hps h
  have hdate := isByDate_chronological ps
  have hfits' : ∀ p ∈ chronological ps, Row.Fits p.amount :=
    fun p hp => hfits p (hdate.perm.mem_iff.1 hp)
  obtain ⟨terms, hcoherent⟩ := coherent_of_ofSums (hc ▸ hdate) hprincipal hraw hvalue hl
  have hpostings : l.postings = chronological ps := by
    obtain ⟨_, _, _, _, _, -, -, -, -, -, rfl⟩ := ofSums_eq_ok_iff.1 hl
    exact hc.symm
  rw [← hc] at hraw
  refine ⟨l, rfl, ?_, fun hclosed => ?_⟩
  · have hlent := hcoherent.principal_eq
    rw [hpostings, principalOf_eq_sum (fun p hp => (hfits' p hp).finite), lendings,
      filter_chronological] at hlent
    exact isTotal_of_sum (fun p hp => hfits p (List.mem_filter.1 hp).1) hlent
  · rw [hcoherent.value_of_closed hclosed]
    exact isTotal_of_sum hfits hraw

/-- What a derivation reports as lent, and what it reports as the value of a closed loan, are the sums
of the amounts: exactly when twenty-eight digits hold them, and with the error of the roundings for
all amounts that the ledger has places for. -/
theorem isBalanced_of_derive? {o : Option Loan} (hps : ps ≠ [])
    (hfits : ∀ p ∈ ps, Row.Fits p.amount)
    (h : (derive? account ps now valueOf currency window).run s = (.ok o, s')) :
    ∃ l, o = some l ∧ IsBalanced ps l := by
  obtain ⟨-, s₁, hrun⟩ := run_derive?_eq_ok_iff.1 ⟨s', h⟩
  exact isBalanced_of_ofPostings? hps hfits hrun

end

/-- A hundred lent, of which thirty came back on the fifteenth day, and then closed. -/
theorem derive?_of_partly_repaid_closed :
    let lent : Posting := ⟨"Loans:Asha", .finite false 100 0, .newYear2024, .one, "", "Target:60d",
      "INR", by decide⟩
    let repaid : Posting := ⟨"Loans:Asha", .finite true 30 0, ⟨738900, by decide, by decide⟩, .one,
      "closed", "", "INR", by decide⟩
    let now : Moment := ⟨⟨738926, by decide, by decide⟩, 0, none, by decide⟩
    let valueOf : Posting → Journaled Fault Decimal := fun p => pure p.amount
    [repaid, lent] ≠ [] ∧ (∀ p ∈ [repaid, lent], Row.Fits p.amount) ∧
      ∃ o s', (derive? "Loans:Asha" [repaid, lent] now valueOf "INR" 30).run empty = (.ok o, s') ∧
        ∃ l, o = some l ∧ IsBalanced [repaid, lent] l ∧
          l.principal.HasValue 100 ∧ l.currentValue.HasValue 70 := by
  intro lent repaid now valueOf
  have hfits : ∀ p ∈ [repaid, lent], Row.Fits p.amount := by
    intro p hp
    rcases List.mem_pair.1 hp with rfl | rfl
    · exact Row.fits_of_exponent (by decide) (by norm_num)
    · exact Row.fits_of_exponent (by decide) (by norm_num)
  have hvalues : ((ofPostings? "Loans:Asha" [repaid, lent] now valueOf "INR" 30).run
      empty).1.toOption.map (fun o => o.map (fun l => (l.status, l.principal, l.currentValue))) =
        some (some (.closed, .finite false 100 0, .finite false 70 0)) := by
    decide +kernel
  obtain ⟨o, s₁, hrun, ho⟩ := exists_of_map_toOption hvalues
  obtain ⟨s', hderive⟩ := run_derive?_eq_ok_iff.2
    ⟨exists_fingerprint_inputs (Text.isPlain_ofString "Loans:Asha") [repaid, lent] now, s₁, hrun⟩
  obtain ⟨l, rfl, hbalanced⟩ := isBalanced_of_derive? (by simp) hfits hderive
  obtain ⟨-, hprincipal, hvalue⟩ := by simpa using Option.some.inj ho
  refine ⟨by simp, hfits, some l, s', hderive, l, rfl, hbalanced, ?_, ?_⟩
  · rw [hprincipal]
    exact ⟨rfl, by norm_num [toRat, number]⟩
  · rw [hvalue]
    exact ⟨rfl, by norm_num [toRat, number]⟩

def longAmount : Decimal := .finite false (10 ^ 28 + 1) (-9)

/-- It fits the ledger, but not even a single amount of this length is reported as it is. -/
theorem not_hasValue_of_longAmount :
    let lent : Posting := ⟨"Loans:Asha", longAmount, .newYear2024, .one, "closed", "", "INR",
      by decide⟩
    let now : Moment := ⟨⟨738926, by decide, by decide⟩, 0, none, by decide⟩
    let valueOf : Posting → Journaled Fault Decimal := fun p => pure p.amount
    Row.Fits lent.amount ∧
      ∃ l s', (derive? "Loans:Asha" [lent] now valueOf "INR" 30).run empty = (.ok (some l), s') ∧
        l.status = .closed ∧ ¬ l.principal.HasValue (amounts (lendings [lent])).sum ∧
        ¬ l.currentValue.HasValue (amounts [lent]).sum := by
  intro lent now valueOf
  have hvalues : ((ofPostings? "Loans:Asha" [lent] now valueOf "INR" 30).run
      empty).1.toOption.map (fun o => o.map (fun l => (l.status, l.principal, l.currentValue))) =
        some (some (.closed, .finite false (10 ^ 27) (-8), .finite false (10 ^ 27) (-8))) := by
    decide +kernel
  obtain ⟨o, s₁, hrun, ho⟩ := exists_of_map_toOption hvalues
  obtain ⟨s', hderive⟩ := run_derive?_eq_ok_iff.2
    ⟨exists_fingerprint_inputs (Text.isPlain_ofString "Loans:Asha") [lent] now, s₁, hrun⟩
  obtain ⟨l, rfl, hl⟩ := Option.map_eq_some_iff.1 ho
  obtain ⟨hclosed, hprincipal, hvalue⟩ := by simpa using hl
  have hlent : lendings [lent] = [lent] := by
    simp [lendings, lent, longAmount, toRat, number]
  have hne : ¬ (Decimal.finite false (10 ^ 27) (-8)).HasValue (amounts [lent]).sum := by
    rintro ⟨-, hsame⟩
    revert hsame
    norm_num [amounts, lent, longAmount, toRat, number]
  refine ⟨Row.fits_of_exponent (by decide) (by norm_num), l, s', hderive, hclosed, ?_, ?_⟩
  · rw [hprincipal, hlent]
    exact hne
  · rw [hvalue]
    exact hne

end Appraisal.Loan
