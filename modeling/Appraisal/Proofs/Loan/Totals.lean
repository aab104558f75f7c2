import Appraisal.Proofs.Ledger.Selection
import Appraisal.Proofs.Loan.Dashboard
import Appraisal.Proofs.Loan.Figures

/-!
# The totals of a dashboard

The fault of one account leaves this account out of a list, but the totals of a summary are summed up
over all that is listed, and a total that is too large leaves nothing. This happens exactly when a
running total of the principals, of the values or of the gains leaves the range of exponents, which
takes many postings or amounts near its end. The tallies are never what is too large: a tally sums up
some of what a total sums up. The main statement: `compute_of_answers`.
-/

namespace Appraisal

open Outcome Journaled Decimal

/-! ### Tallies below a total -/

section

variable {total q : ℚ} {amount : Decimal} (hamount : amount.HasValue q) (hq : 0 ≤ q)
  (hkept : rounded total = total) (hfits : |rounded (total + q)| < overflowLimit)

def Tally.IsWithin (total : ℚ) (t : Tally) : Prop :=
  ∃ a, t.amount.HasValue a ∧ 0 ≤ a ∧ a ≤ total

include hkept in
theorem le_rounded_add (htotal : 0 ≤ total) (hq : 0 ≤ q) : total ≤ rounded (total + q) := by
  have hmono := rounded_mono htotal (le_add_of_nonneg_right hq)
  rwa [hkept] at hmono

include hamount hq hfits in
theorem Tally.IsWithin.exists_add {t : Tally} (h : t.IsWithin total) :
    ∃ next, t.add amount = .ok next ∧ next.IsWithin (rounded (total + q)) := by
  obtain ⟨a, ha, hnonneg, hle⟩ := h
  have hsum : 0 ≤ a + q := add_nonneg hnonneg hq
  have hmono : rounded (a + q) ≤ rounded (total + q) := rounded_mono hsum (by linarith)
  have hsmall : |rounded (a + q)| < overflowLimit := by
    rw [abs_of_nonneg (rounded_nonneg hsum)]
    exact hmono.trans_lt ((le_abs_self _).trans_lt hfits)
  obtain ⟨d, hadd, hd⟩ := (isRounded_add ha hamount).eq_ok hsmall
  refine ⟨⟨t.count + 1, d⟩, ?_, _, hd, rounded_nonneg hsum, hmono⟩
  unfold Tally.add
  rw [hadd]
  rfl

include hamount hq hkept hfits in
/-- What a total can be raised by, each tally can. -/
theorem exists_addTally_within (htotal : 0 ≤ total) {κ : Type} [DecidableEq κ] (k : κ)
    {tallies : List (κ × Tally)} (h : ∀ e ∈ tallies, e.2.IsWithin total) :
    ∃ next, addTally k amount tallies = .ok next ∧
      ∀ e ∈ next, e.2.IsWithin (rounded (total + q)) := by
  have hraised {t : Tally} (ht : t.IsWithin total) : t.IsWithin (rounded (total + q)) := by
    obtain ⟨a, ha, hnonneg, hle⟩ := ht
    exact ⟨a, ha, hnonneg, hle.trans (le_rounded_add hkept htotal hq)⟩
  induction tallies with
  | nil =>
      have hempty : Tally.empty.IsWithin total := ⟨0, hasValue_zero, le_rfl, htotal⟩
      obtain ⟨t, hadd, ht⟩ := hempty.exists_add hamount hq hfits
      refine ⟨[(k, t)], ?_, by simpa using ht⟩
      unfold addTally
      rw [hadd]
      rfl
  | cons e rest ih =>
      obtain ⟨k', t⟩ := e
      rw [List.forall_mem_cons] at h
      unfold addTally
      by_cases hk : k' = k
      · obtain ⟨t', hadd, ht'⟩ := h.1.exists_add hamount hq hfits
        refine ⟨(k', t') :: rest, ?_, ?_⟩
        · rw [if_pos hk, hadd]
          rfl
        · exact List.forall_mem_cons.2 ⟨ht', fun e he => hraised (h.2 e he)⟩
      · obtain ⟨next, hadd, hnext⟩ := ih h.2
        refine ⟨(k', t) :: next, ?_, List.forall_mem_cons.2 ⟨hraised h.1, hnext⟩⟩
        rw [if_neg hk, hadd]
        rfl

end

/-! ### Running totals -/

/-- The figures of the loan are numbers, and what was lent is not negative. -/
structure Loan.IsNumeric (l : Loan) : Prop where
  principal : l.principal.isFinite = true
  currentValue : l.currentValue.isFinite = true
  gain : l.gain.isFinite = true
  lent : 0 ≤ l.principal.toRat

namespace Summary

/-- The running totals of a summary, with its tallies below what was lent. -/
structure HasTotals (lent value gain : ℚ) (s : Summary) : Prop where
  totalLent : s.totalLent.HasValue lent
  totalValue : s.totalValue.HasValue value
  totalGain : s.totalGain.HasValue gain
  nonneg : 0 ≤ lent
  kept : rounded lent = lent
  byStatus : ∀ e ∈ s.byStatus, e.2.IsWithin lent
  byRisk : ∀ e ∈ s.byRisk, e.2.IsWithin lent

/-- No running total of the loans is too large for the range of exponents. -/
structure TotalsFit (lent value gain : ℚ) (loans : List Loan) : Prop where
  lent : StaysInRange lent (loans.map (fun l => l.principal.toRat))
  value : StaysInRange value (loans.map (fun l => l.currentValue.toRat))
  gain : StaysInRange gain (loans.map (fun l => l.gain.toRat))

structure CanAdd (lent value gain : ℚ) (l : Loan) : Prop where
  lent : |rounded (lent + l.principal.toRat)| < overflowLimit
  value : |rounded (value + l.currentValue.toRat)| < overflowLimit
  gain : |rounded (gain + l.gain.toRat)| < overflowLimit

variable {lent value gain : ℚ} {s : Summary} {l : Loan} {loans : List Loan}

theorem hasTotals_empty (currency : Text) : HasTotals 0 0 0 (empty currency) :=
  ⟨hasValue_zero, hasValue_zero, hasValue_zero, le_rfl, rounded_zero, by simp [empty],
    by simp [empty]⟩

theorem totalsFit_cons_iff : TotalsFit lent value gain (l :: loans) ↔
    CanAdd lent value gain l ∧
      TotalsFit (rounded (lent + l.principal.toRat)) (rounded (value + l.currentValue.toRat))
        (rounded (gain + l.gain.toRat)) loans := by
  constructor
  · rintro ⟨⟨hlent, hlent'⟩, ⟨hvalue, hvalue'⟩, ⟨hgain, hgain'⟩⟩
    exact ⟨⟨hlent, hvalue, hgain⟩, hlent', hvalue', hgain'⟩
  · rintro ⟨⟨hlent, hvalue, hgain⟩, hlent', hvalue', hgain'⟩
    exact ⟨⟨hlent, hlent'⟩, ⟨hvalue, hvalue'⟩, ⟨hgain, hgain'⟩⟩

/-- A loan is added when the three totals can be raised by it, whatever the tallies. -/
theorem HasTotals.exists_add (h : HasTotals lent value gain s) (hl : l.IsNumeric)
    (hfits : CanAdd lent value gain l) :
    ∃ next, s.add l = .ok next ∧
      HasTotals (rounded (lent + l.principal.toRat)) (rounded (value + l.currentValue.toRat))
        (rounded (gain + l.gain.toRat)) next := by
  have hprincipal : l.principal.HasValue l.principal.toRat := ⟨hl.principal, rfl⟩
  obtain ⟨lent', hlent', htotalLent⟩ := (isRounded_add h.totalLent hprincipal).eq_ok hfits.lent
  obtain ⟨value', hvalue', htotalValue⟩ :=
    (isRounded_add h.totalValue ⟨hl.currentValue, rfl⟩).eq_ok hfits.value
  obtain ⟨gain', hgain', htotalGain⟩ :=
    (isRounded_add h.totalGain ⟨hl.gain, rfl⟩).eq_ok hfits.gain
  obtain ⟨byStatus, hstatus, hbyStatus⟩ :=
    exists_addTally_within hprincipal hl.lent h.kept hfits.lent h.nonneg l.status h.byStatus
  obtain ⟨byRisk, hrisk, hbyRisk⟩ :=
    exists_addTally_within hprincipal hl.lent h.kept hfits.lent h.nonneg l.risk h.byRisk
  refine ⟨⟨lent', value', gain', s.totalAccounts + 1, byStatus, byRisk, s.currency⟩, ?_,
    htotalLent, htotalValue, htotalGain, rounded_nonneg (add_nonneg h.nonneg hl.lent),
    rounded_rounded _, hbyStatus, hbyRisk⟩
  unfold add
  rw [hlent', hvalue', hgain', hstatus, hrisk]
  rfl

theorem HasTotals.add_eq_overflow (h : HasTotals lent value gain s) (hl : l.IsNumeric)
    (hlarge : ¬ CanAdd lent value gain l) : s.add l = .error .overflow := by
  have hlent := isRounded_add h.totalLent (show l.principal.HasValue _ from ⟨hl.principal, rfl⟩)
  have hvalue :=
    isRounded_add h.totalValue (show l.currentValue.HasValue _ from ⟨hl.currentValue, rfl⟩)
  have hgain := isRounded_add h.totalGain (show l.gain.HasValue _ from ⟨hl.gain, rfl⟩)
  unfold add
  by_cases hlent' : |rounded (lent + l.principal.toRat)| < overflowLimit
  · obtain ⟨d, hd, -⟩ := hlent.eq_ok hlent'
    rw [hd]
    by_cases hvalue' : |rounded (value + l.currentValue.toRat)| < overflowLimit
    · obtain ⟨d', hd', -⟩ := hvalue.eq_ok hvalue'
      rw [hd', hgain.eq_overflow (not_lt.1 (fun hgain' => hlarge ⟨hlent', hvalue', hgain'⟩))]
      rfl
    · rw [hvalue.eq_overflow (not_lt.1 hvalue')]
      rfl
  · rw [hlent.eq_overflow (not_lt.1 hlent')]
    rfl

/-- Loans are summed up exactly when no running total is too large; otherwise there is an overflow. -/
theorem HasTotals.foldlM_add (h : HasTotals lent value gain s) (hloans : ∀ l ∈ loans, l.IsNumeric) :
    (TotalsFit lent value gain loans → ∃ next, loans.foldlM add s = .ok next) ∧
      (¬ TotalsFit lent value gain loans → loans.foldlM add s = .error .overflow) := by
  induction loans generalizing s lent value gain with
  | nil => exact ⟨fun _ => ⟨s, rfl⟩, fun hlarge => absurd ⟨trivial, trivial, trivial⟩ hlarge⟩
  | cons l loans ih =>
      rw [List.forall_mem_cons] at hloans
      rw [totalsFit_cons_iff, List.foldlM_cons]
      by_cases hfits : CanAdd lent value gain l
      · obtain ⟨next, hadd, hnext⟩ := h.exists_add hloans.1 hfits
        rw [hadd, ok_bind]
        have hrest := ih hnext hloans.2
        exact ⟨fun hall => hrest.1 hall.2, fun hlarge => hrest.2 (fun hall => hlarge ⟨hfits, hall⟩)⟩
      · rw [h.add_eq_overflow hloans.1 hfits]
        exact ⟨fun hall => absurd hall.1 hfits, fun _ => rfl⟩

/-- A currency with a surrogate has no fingerprint. -/
theorem exists_unencodable {currency : Text} (h : ¬ currency.IsPlain) :
    ∃ u, engine.fingerprint [("currency", .text currency)] =
      .error (.refusal (.unencodable u)) := by
  have htext : Fingerprint.text engine.fields [("currency", .text currency)] =
      .ok ("currency" ++ "=" ++ currency) := by
    simp [engine, Fingerprint.text, Fingerprint.canonical, Fingerprint.labelled, Text.intercalate]
    rfl
  have hstring : ("currency" ++ "=" ++ currency : Text).string? = none := by
    rw [Option.eq_none_iff_forall_ne_some]
    exact fun s hs => h (Text.isPlain_append_iff.1 (Text.isPlain_of_string? hs)).2
  refine ⟨"currency" ++ "=" ++ currency, ?_⟩
  unfold Journal.Engine.fingerprint Fingerprint.ofInputs
  rw [if_neg (by decide), htext, ok_bind, hstring]
  rfl

end Summary

/-! ### Loans of a ledger -/

/-- Groups with different keys have no more items together than there are. -/
theorem sum_lengths_le {α κ : Type} [DecidableEq κ] (key : α → κ) {keys : List κ}
    (hnodup : keys.Nodup) (xs : List α) :
    (keys.map (fun k => (xs.filter (key · = k)).length)).sum ≤ xs.length := by
  have hall : ∀ x ∈ xs.filter (key · ∈ keys), key x ∈ keys :=
    fun x hx => of_decide_eq_true (List.mem_filter.1 hx).2
  have hgroup : ∀ k ∈ keys, (xs.filter (key · = k)).length =
      (((xs.filter (key · ∈ keys)).filter (key · = k)).map (fun _ => 1)).sum := by
    intro k hk
    have hsame : (xs.filter (key · ∈ keys)).filter (key · = k) = xs.filter (key · = k) := by
      rw [List.filter_filter]
      refine List.filter_congr (fun x _ => ?_)
      by_cases hx : key x = k
      · simp [hx, hk]
      · simp [hx]
    rw [hsame]
    simp
  rw [List.map_congr_left hgroup, sum_groups (fun _ => 1) hnodup hall]
  simpa using List.length_filter_le _ xs

namespace Loan

variable {t : ListingTerms} {P ps : List Posting} {l : Loan} {loans : List Loan}

theorem Reckoned.isNumeric (h : Reckoned ps l) : l.IsNumeric where
  principal := h.principal.1
  currentValue := by
    obtain ⟨values, -, hvalue⟩ := h.currentValue
    exact hvalue.1
  gain := h.gain.elim And.left And.left
  lent := h.principal_nonneg

/-- Loans of different accounts have totals that stay in range when there are few postings and none is
near the end of the range. -/
theorem totalsFit_of_reckoned (haccounts : (loans.map Loan.account).Nodup)
    (hloans : ∀ l ∈ loans, Reckoned (P.filter (fun p => p.account = l.account)) l)
    (hamounts : ∀ p ∈ P, p.amount.isFinite = true ∧ |p.amount.toRat| ≤ 10 ^ topExponent)
    (hfew : 2 * P.length < 10 ^ precision) : Summary.TotalsFit 0 0 0 loans := by
  let count (l : Loan) : Nat := (P.filter (fun p => p.account = l.account)).length
  have hcounts : ∀ l ∈ loans, l.Counts (count l) topExponent := by
    intro l hl
    refine (hloans l hl).counts (by decide) (fun p hp => hamounts p (List.mem_filter.1 hp).1) ?_
    have := List.length_filter_le (fun p => decide (p.account = l.account)) P
    omega
  have hsum : (loans.map count).sum ≤ P.length := by
    have h := sum_lengths_le Posting.account haccounts P
    rwa [List.map_map] at h
  have hdouble : (loans.map (fun l => 2 * count l)).sum = 2 * (loans.map count).sum :=
    List.sum_map_mul_left ..
  have hzero : |(0 : ℚ)| ≤ (0 : Nat) * 10 ^ topExponent := by simp
  exact ⟨staysInRange_of_counts (by decide) le_rfl (fun l hl => (hcounts l hl).principal) hzero
      (by omega),
    staysInRange_of_counts (by decide) le_rfl (fun l hl => (hcounts l hl).currentValue) hzero
      (by omega),
    staysInRange_of_counts (by decide) le_rfl (fun l hl => (hcounts l hl).gain) hzero (by omega)⟩

/-- Storage answers every pattern whose filter it takes. -/
theorem answers_select {rows : List Posting} {pattern : Text}
    (h : LedgerStore.Takes rows (AccountPattern.coarse pattern)) :
    Answers (LedgerStore.ready rows).select (sorted LedgerStore.before rows) pattern := by
  intro s
  have hselect := LedgerStore.yields_select rows pattern s
  rw [LedgerStore.filterOf_eq_ok_iff.2 ⟨rfl, h⟩] at hselect
  refine ⟨LedgerStore.candidates (AccountPattern.coarse pattern) rows, _, Prod.ext hselect rfl,
    ?_, ?_⟩
  · unfold LedgerStore.candidates
    rw [← LedgerStore.filter_sorted_before]
    exact List.filter_sublist
  · have hfilter := LedgerStore.filter_candidates pattern rows
    unfold AccountPattern.filter at hfilter ⊢
    rw [LedgerStore.filter_sorted_before, ← hfilter]
    exact List.filter_sublist

/-- Each loan is listed whose account a rule with a pattern matches, and no other. -/
theorem exists_yields_list {ε : Type} (fault : Fault → ε)
    {source : Text → Journaled ε (List Posting)} {t : ListingTerms}
    (hsource : ∀ r ∈ t.rules, r.account ≠ "" → Answers source P r.account) :
    ∃ loans, Yields (list fault source t) (.ok loans) ∧ (loans.map Loan.account).Nodup ∧
      ∀ l, l ∈ loans ↔ (∃ p ∈ P, p.account = l.account) ∧
        (∃ r ∈ t.rules, r.account ≠ "" ∧ AccountPattern.accepts r.account l.account = true) ∧
        derivation t P l.account = .ok (some l) := by
  have hempty : Tracked t P ⟨[], []⟩ := ⟨List.nodup_nil, rfl⟩
  obtain ⟨found, hy, ht, hmem⟩ := yields_addRules_of_answers fault hempty hsource
  simp only [List.not_mem_nil, false_or] at hmem
  have hseen : ∀ a ∈ found.seen, ∃ p ∈ P, p.account = a := fun a ha => ((hmem a).1 ha).1
  refine ⟨listed found.loans, yields_list hy, ?_, fun l => ?_⟩
  · exact List.pairwise_map.2
      ((pairwise_listed (pairwise_accounts ht hseen)).imp (fun hab => hab.1))
  · rw [mem_listed, mem_loans_iff ht hseen, hmem, and_assoc]

end Loan

/-! ### Dashboards -/

namespace Dashboard

variable {ε : Type} (fault : Fault → ε) (source : Text → Journaled ε (List Posting))
  (t : Loan.ListingTerms) {loans : List Loan}

/-- A dashboard ends as the summary of its loans does. -/
theorem yields_compute {r : Except Fault Summary}
    (hlist : Yields (Loan.list fault source t) (.ok loans))
    (hr : (Summary.engine.fingerprint [("currency", .text t.currency)] >>= fun _ =>
      (Summary.ofLoans loans t.currency).mapError .decimal) = r) :
    Yields (compute fault source t)
      (r.mapError fault >>= fun s => .ok ⟨loans, s, Alert.ofLoans loans⟩) := by
  subst hr
  refine hlist.bind (g := fun _ => _) (fun loans' h => ?_)
  obtain rfl := Except.ok.inj h
  have hsummary := Summary.engine.yields_traced [("currency", .text t.currency)]
    (yields_lift ((Summary.ofLoans loans t.currency).mapError Fault.decimal))
  refine (hsummary.mapFault fault).bind (fun s _ => ?_)
  exact (yields_note _ _ _ _ _).bind (g := fun _ => _) (fun _ _ => yields_pure _)

/-- Whatever the rules and the postings, just the loans that can be derived are listed. When the currency
can be written as bytes, there is a dashboard of them exactly when no running total is too large, and
otherwise an overflow. No total is too large when there are fewer than half of `10 ^ 28` postings and
each amount is at most the power of ten that is the last of twenty-eight digits of the largest
numbers. -/
theorem compute_of_answers (P : List Posting)
    (hsource : ∀ r ∈ t.rules, r.account ≠ "" → Loan.Answers source P r.account)
    (hfinite : ∀ p ∈ P, p.amount.isFinite = true) :
    ∃ loans, Yields (Loan.list fault source t) (.ok loans) ∧
      (∀ l, l ∈ loans ↔ (∃ p ∈ P, p.account = l.account) ∧
        (∃ r ∈ t.rules, r.account ≠ "" ∧ AccountPattern.accepts r.account l.account = true) ∧
        Loan.derivation t P l.account = .ok (some l)) ∧
      (t.currency.IsPlain → Summary.TotalsFit 0 0 0 loans →
        ∃ s, Summary.ofLoans loans t.currency = .ok s ∧
          Yields (compute fault source t) (.ok ⟨loans, s, Alert.ofLoans loans⟩)) ∧
      (t.currency.IsPlain → ¬ Summary.TotalsFit 0 0 0 loans →
        Yields (compute fault source t) (.error (fault (.decimal .overflow)))) ∧
      (¬ t.currency.IsPlain →
        ∃ u, Yields (compute fault source t) (.error (fault (.refusal (.unencodable u))))) ∧
      (2 * P.length < 10 ^ precision → (∀ p ∈ P, |p.amount.toRat| ≤ 10 ^ topExponent) →
        Summary.TotalsFit 0 0 0 loans) := by
  obtain ⟨loans, hlist, haccounts, hmem⟩ := Loan.exists_yields_list fault hsource
  have hreckoned : ∀ l ∈ loans, Loan.Reckoned (P.filter (fun p => p.account = l.account)) l := by
    intro l hl
    obtain ⟨haccount, -, hderivation⟩ := (hmem l).1 hl
    exact Loan.reckoned_of_derivation haccount hfinite hderivation
  have hsummary := (Summary.hasTotals_empty t.currency).foldlM_add
    (fun l hl => (hreckoned l hl).isNumeric)
  refine ⟨loans, hlist, hmem, fun hplain hfit => ?_, fun hplain hlarge => ?_, fun hplain => ?_,
    fun hfew hamounts => ?_⟩
  · obtain ⟨s, hs⟩ := hsummary.1 hfit
    obtain ⟨f, hf⟩ := Summary.exists_fingerprint_of_isPlain hplain
    refine ⟨s, hs, yields_compute fault source t hlist (r := .ok s) ?_⟩
    rw [hf, ok_bind, Summary.ofLoans, hs]
    rfl
  · obtain ⟨f, hf⟩ := Summary.exists_fingerprint_of_isPlain hplain
    refine yields_compute fault source t hlist (r := .error (.decimal .overflow)) ?_
    rw [hf, ok_bind, Summary.ofLoans, hsummary.2 hlarge]
    rfl
  · obtain ⟨u, hu⟩ := Summary.exists_unencodable hplain
    refine ⟨u, yields_compute fault source t hlist (r := .error (.refusal (.unencodable u))) ?_⟩
    rw [hu, error_bind]
  · exact Loan.totalsFit_of_reckoned haccounts hreckoned
      (fun p hp => ⟨hfinite p hp, hamounts p hp⟩) hfew

/-- An account that matures after the last day of the calendar is left out, and the dashboard shows the
other one. -/
theorem compute_of_late_maturity :
    let asha : Posting := ⟨"Loans:Asha", .finite false 100 0, .newYear2024, .one, "", "Target:9999y",
      "INR", by decide⟩
    let ravi : Posting := ⟨"Loans:Ravi", .finite false 50 0, .newYear2024, .one, "", "Target:60d",
      "INR", by decide⟩
    let t : Loan.ListingTerms := ⟨[⟨"all", "Loans:*", "amount", ""⟩],
      ⟨.newYear2024, 0, none, by decide⟩, "INR", 30⟩
    let ledger : LedgerStore := .ready [ravi, asha]
    (∀ r ∈ t.rules, r.account ≠ "" → Loan.Answers ledger.select [asha, ravi] r.account) ∧
      (∀ p ∈ [asha, ravi], p.amount.isFinite = true) ∧
      ∃ loans s, loans.map Loan.account = [("Loans:Ravi" : Text)] ∧
        Yields (compute LedgerError.fault ledger.select t)
          (.ok ⟨loans, s, Alert.ofLoans loans⟩) := by
  intro asha ravi t ledger
  have hsource : ∀ r ∈ t.rules, r.account ≠ "" →
      Loan.Answers ledger.select [asha, ravi] r.account := by
    intro r hr _
    obtain rfl := List.mem_singleton.1 hr
    exact Loan.answers_select ⟨"Loans:%", rfl, .inr (by decide)⟩
  have hfinite : ∀ p ∈ [asha, ravi], p.amount.isFinite = true := by decide
  obtain ⟨loans, hlist, -, hfits, -, -, hheld⟩ :=
    compute_of_answers LedgerError.fault ledger.select t [asha, ravi] hsource hfinite
  have haccounts : ((Loan.list LedgerError.fault ledger.select t).run
      Journaled.empty).1.toOption.map (fun loans => loans.map Loan.account) =
        some [("Loans:Ravi" : Text)] := by
    decide +kernel
  rw [hlist Journaled.empty] at haccounts
  have hsmall (c : Nat) (h : (0 : Int) + decimalLength c ≤ topExponent) :
      |(finite false c 0).toRat| ≤ 10 ^ topExponent :=
    (abs_number false c 0).trans_le
      ((lt_of_length c 0).le.trans (zpow_le_zpow_right₀ (by norm_num) h))
  have hamounts : ∀ p ∈ [asha, ravi], |p.amount.toRat| ≤ 10 ^ topExponent := by
    intro p hp
    rcases List.mem_pair.1 hp with rfl | rfl
    · exact hsmall 100 (by decide +kernel)
    · exact hsmall 50 (by decide +kernel)
  obtain ⟨s, -, hs⟩ := hfits (Text.isPlain_ofString "INR") (hheld (by decide) hamounts)
  exact ⟨hsource, hfinite, loans, s, Option.some.inj haccounts, hs⟩

/-- Two closed loans, each near the end of the range, have no total. -/
theorem compute_eq_overflow :
    let asha : Posting := ⟨"Loans:Asha", .finite false 9 999999, .newYear2024, .one, "closed", "",
      "INR", by decide⟩
    let ravi : Posting := ⟨"Loans:Ravi", .finite false 9 999999, .newYear2024, .one, "closed", "",
      "INR", by decide⟩
    let t : Loan.ListingTerms := ⟨[⟨"all", "Loans:*", "amount", ""⟩],
      ⟨.newYear2024, 0, none, by decide⟩, "INR", 30⟩
    let source : Text → Journaled Fault (List Posting) := fun _ => pure [asha, ravi]
    (∀ p ∈ [asha, ravi], p.amount.isFinite = true) ∧
      (Loan.list id source t).result.toOption.map (fun loans => loans.map Loan.account) =
        some [("Loans:Asha" : Text), "Loans:Ravi"] ∧
      (compute id source t).result.map (fun _ => ()) = .error (.decimal .overflow) := by
  decide +kernel

end Dashboard

end Appraisal
