import Appraisal.Loan.Dashboard
import Appraisal.Proofs.Journal.Trace
import Appraisal.Proofs.Loan.Coherence
import Appraisal.Proofs.Loan.Summary
import Appraisal.Proofs.Sorting
import Appraisal.Proofs.Valuation.Transcript

/-!
# The parts of a dashboard

A dashboard shows the same loans three times: in its list, in its summary and in its alerts. The parts
agree: each figure of the summary is that of the list, and the alerts are those of the loans that the
summary counts as overdue or as maturing.

A service of loans labels everything with the currency that its store had when the service was set up,
while its rules are those that the store has by now. The labels fit the configuration that the loans
come from exactly when its currency is still the same.
-/

namespace Appraisal

open Outcome Journaled Decimal

/-! ### Alerts -/

namespace Alert

def sooner (a b : Alert) : Bool := a.kind.rank < b.kind.rank

theorem sooner_eq_true_iff {a b : Alert} :
    sooner a b = true ↔ a.kind = .overdue ∧ b.kind = .maturing := by
  unfold sooner
  cases a.kind <;> cases b.kind <;> decide

theorem sooner_eq_false_iff {a b : Alert} :
    sooner a b = false ↔ (b.kind = .overdue ∨ a.kind = .maturing) := by
  unfold sooner
  cases a.kind <;> cases b.kind <;> decide

theorem sooner_irrefl (a : Alert) : sooner a a = false := by
  unfold sooner
  cases a.kind <;> rfl

theorem sooner_trans (a b c : Alert) (hab : sooner a b = true) (hbc : sooner b c = true) :
    sooner a c = true := by
  rw [sooner_eq_true_iff] at *
  exact ⟨hab.1, hbc.2⟩

theorem sooner_of_not_sooner (a b c : Alert) (hab : sooner a b = true) (hcb : sooner c b = false) :
    sooner a c = true := by
  rw [sooner_eq_false_iff] at hcb
  rw [sooner_eq_true_iff] at *
  refine ⟨hab.1, hcb.resolve_left (fun hb => ?_)⟩
  rw [hab.2] at hb
  cases hb

def ofStatus (kind : AlertKind) (loans : List Loan) : List Alert :=
  match kind with
  | .overdue => (loans.filter (·.status = .overdue)).map
      (fun l => ⟨.overdue, l.account, l.principal, l.daysOverdue⟩)
  | .maturing => (loans.filter (·.status = .maturing)).map
      (fun l => ⟨.maturing, l.account, l.principal, l.daysToMaturity⟩)

theorem filter_filterMap_ofLoan? (kind : AlertKind) (loans : List Loan) :
    (loans.filterMap ofLoan?).filter (fun a => a.kind = kind) = ofStatus kind loans := by
  induction loans with
  | nil => cases kind <;> rfl
  | cons l loans ih => cases hstatus : l.status <;> cases kind <;> simp_all [ofLoan?, ofStatus]

/-- Alerts of one kind keep the order of their loans. -/
theorem filter_ofLoans (kind : AlertKind) (loans : List Loan) :
    (ofLoans loans).filter (fun a => a.kind = kind) = ofStatus kind loans := by
  have hfilter := filter_sorted sooner_trans sooner_irrefl sooner_of_not_sooner
    (fun a => decide (a.kind = kind)) (loans.filterMap ofLoan?)
  rw [filter_filterMap_ofLoan?] at hfilter
  refine hfilter.trans (sorted_of_unordered (fun a ha b hb => ?_))
  rw [← filter_filterMap_ofLoan?] at ha hb
  have hka := of_decide_eq_true (List.mem_filter.1 ha).2
  have hkb := of_decide_eq_true (List.mem_filter.1 hb).2
  rw [sooner_eq_false_iff, hka, hkb]
  cases kind
  · exact .inl rfl
  · exact .inr rfl

theorem ofLoans_eq (loans : List Loan) :
    ofLoans loans = ofStatus .overdue loans ++ ofStatus .maturing loans := by
  have hordered : (ofLoans loans).Pairwise (fun a b => sooner b a = false) :=
    pairwise_sorted sooner_trans sooner_irrefl _
  have hsplit : ofLoans loans = _ := eq_filter_append_filter
    (hordered.imp (fun {a b} hab (hb : decide (b.kind = .overdue) = true) => by
      rw [sooner_eq_false_iff, of_decide_eq_true hb] at hab
      exact decide_eq_true (hab.resolve_right (by decide))))
  have hother (a : Alert) : (!decide (a.kind = .overdue)) = decide (a.kind = .maturing) := by
    cases a.kind <;> rfl
  rw [hsplit, funext hother, filter_ofLoans, filter_ofLoans]

end Alert

namespace Summary

theorem run_compute_eq_ok_iff {loans : List Loan} {currency : Text} {j : JournalState}
    {s : Summary} : (∃ j', (compute loans currency).run j = (.ok s, j')) ↔
      (∃ f, engine.fingerprint [("currency", .text currency)] = .ok f) ∧
        ofLoans loans currency = .ok s := by
  unfold compute
  rw [Journal.Engine.run_traced_eq_ok_iff]
  refine and_congr_right' ⟨?_, fun h => ⟨j, ?_⟩⟩
  · rintro ⟨j', h⟩
    exact mapError_eq_ok_iff.1 (Prod.mk.inj h).1
  · rw [h]
    rfl

theorem exists_fingerprint_of_isPlain {currency : Text} (h : currency.IsPlain) :
    ∃ f, engine.fingerprint [("currency", .text currency)] = .ok f := by
  refine Journal.Engine.exists_fingerprint (fun f hf => ?_) (fun i hi => ?_)
  · obtain rfl := List.mem_singleton.1 hf
    exact Text.isPlain_ofString "currency"
  · obtain rfl := List.mem_singleton.1 hi
    exact ⟨currency, rfl, h⟩

end Summary

/-! ### Agreement -/

namespace Dashboard

/-- The parts of a dashboard agree, with a window in which loans count as maturing. -/
structure Agrees (window : Int) (d : Dashboard) : Prop where
  totalAccounts : d.summary.totalAccounts = d.loans.length
  statusCounts : (d.summary.byStatus.map (fun e => e.2.count)).sum = d.loans.length
  riskCounts : (d.summary.byRisk.map (fun e => e.2.count)).sum = d.loans.length
  totalLent : d.summary.totalLent.IsSum (d.loans.map Loan.principal)
  statusAmounts : d.summary.totalLent.IsSum (d.summary.byStatus.map (fun e => e.2.amount))
  riskAmounts : d.summary.totalLent.IsSum (d.summary.byRisk.map (fun e => e.2.amount))
  totalValue : d.summary.totalValue.IsSum (d.loans.map Loan.currentValue)
  totalGain : d.summary.totalGain.IsSum (d.loans.map Loan.gain)
  byStatus : Tallies Loan.status Loan.principal d.loans d.summary.byStatus
  byRisk : Tallies Loan.risk Loan.principal d.loans d.summary.byRisk
  alerts_eq : d.alerts = Alert.ofStatus .overdue d.loans ++ Alert.ofStatus .maturing d.loans
  overdueCount :
    (d.alerts.filter (·.kind = .overdue)).length = countOf .overdue d.summary.byStatus
  maturingCount :
    (d.alerts.filter (·.kind = .maturing)).length = countOf .maturing d.summary.byStatus
  overdueDays : ∀ a ∈ d.alerts, a.kind = .overdue → 1 ≤ a.days
  maturingDays : ∀ a ∈ d.alerts, a.kind = .maturing → 0 ≤ a.days ∧ a.days ≤ window

variable {t : Loan.ListingTerms} {loans : List Loan}

theorem days_of_overdue {l : Loan} (h : l.IsCoherent t) (hstatus : l.status = .overdue) :
    1 ≤ l.daysOverdue := by
  obtain ⟨account, ps, s, raw, terms, hcoherent⟩ := h
  have hdays : l.daysToMaturity < 0 := hcoherent.progress.overdue_iff.1 hstatus
  rw [hcoherent.daysOverdue_eq]
  omega

theorem days_of_maturing {l : Loan} (h : l.IsCoherent t) (hstatus : l.status = .maturing) :
    0 ≤ l.daysToMaturity ∧ l.daysToMaturity ≤ t.window := by
  obtain ⟨account, ps, s, raw, terms, hcoherent⟩ := h
  exact hcoherent.progress.days_of_maturing hstatus

/-- Each alert gives the days of a loan with its status. -/
theorem exists_of_mem_alerts {a : Alert} (h : a ∈ Alert.ofLoans loans) :
    ∃ l ∈ loans, (a.kind = .overdue ∧ l.status = .overdue ∧ a.days = l.daysOverdue) ∨
      (a.kind = .maturing ∧ l.status = .maturing ∧ a.days = l.daysToMaturity) := by
  rw [Alert.ofLoans_eq, List.mem_append] at h
  rcases h with h | h
  · obtain ⟨l, hl, rfl⟩ := List.mem_map.1 h
    obtain ⟨hmem, hstatus⟩ := List.mem_filter.1 hl
    exact ⟨l, hmem, .inl ⟨rfl, of_decide_eq_true hstatus, rfl⟩⟩
  · obtain ⟨l, hl, rfl⟩ := List.mem_map.1 h
    obtain ⟨hmem, hstatus⟩ := List.mem_filter.1 hl
    exact ⟨l, hmem, .inr ⟨rfl, of_decide_eq_true hstatus, rfl⟩⟩

theorem agrees_of_summarizes {s : Summary} (hs : s.Summarizes loans)
    (hloans : ∀ l ∈ loans, l.IsCoherent t) : Agrees t.window ⟨loans, s, Alert.ofLoans loans⟩ where
  totalAccounts := hs.totalAccounts
  statusCounts := hs.byStatus.sum_counts
  riskCounts := hs.byRisk.sum_counts
  totalLent := hs.totalLent
  statusAmounts := ⟨hs.totalLent.1, hs.totalLent.2.trans hs.byStatus.sum_amounts.symm⟩
  riskAmounts := ⟨hs.totalLent.1, hs.totalLent.2.trans hs.byRisk.sum_amounts.symm⟩
  totalValue := hs.totalValue
  totalGain := hs.totalGain
  byStatus := hs.byStatus
  byRisk := hs.byRisk
  alerts_eq := Alert.ofLoans_eq loans
  overdueCount := by
    rw [hs.byStatus.countOf_eq, Alert.filter_ofLoans]
    exact List.length_map _
  maturingCount := by
    rw [hs.byStatus.countOf_eq, Alert.filter_ofLoans]
    exact List.length_map _
  overdueDays a ha hkind := by
    obtain ⟨l, hl, ⟨-, hstatus, hdays⟩ | ⟨hother, -⟩⟩ := exists_of_mem_alerts ha
    · rw [hdays]
      exact days_of_overdue (hloans l hl) hstatus
    · rw [hkind] at hother
      cases hother
  maturingDays a ha hkind := by
    obtain ⟨l, hl, ⟨hother, -⟩ | ⟨-, hstatus, hdays⟩⟩ := exists_of_mem_alerts ha
    · rw [hkind] at hother
      cases hother
    · rw [hdays]
      exact days_of_maturing (hloans l hl) hstatus

/-- A dashboard is the loans with their summary and their alerts. The summary is recorded, so the
currency must have a fingerprint. -/
theorem run_compute_eq_ok_iff {ε : Type} {fault : Fault → ε}
    {source : Text → Journaled ε (List Posting)} {j j' : JournalState} {d : Dashboard}
    (hlist : (Loan.list fault source t).run j = (.ok loans, j')) :
    (∃ j'', (compute fault source t).run j = (.ok d, j'')) ↔
      (∃ f, Summary.engine.fingerprint [("currency", .text t.currency)] = .ok f) ∧
        ∃ s, Summary.ofLoans loans t.currency = .ok s ∧ d = ⟨loans, s, Alert.ofLoans loans⟩ := by
  have hrun : (compute fault source t).run j = (do
      let summary ← mapFault fault (Summary.compute loans t.currency)
      let alerts ← Alert.build loans
      return ⟨loans, summary, alerts⟩ : Journaled ε Dashboard).run j' := run_bind_ok hlist
  rw [hrun]
  constructor
  · rintro ⟨j'', h⟩
    obtain ⟨s, j₁, hs, h⟩ := run_bind_eq_ok_iff.1 h
    obtain ⟨hs, -⟩ := Prod.mk.inj hs
    have hcompute := Summary.run_compute_eq_ok_iff.1 ⟨_, Prod.ext (mapError_eq_ok_iff.1 hs) rfl⟩
    exact ⟨hcompute.1, s, hcompute.2, (Except.ok.inj (Prod.mk.inj h).1).symm⟩
  · rintro ⟨hf, s, hs, rfl⟩
    obtain ⟨j₁, hcompute⟩ := (Summary.run_compute_eq_ok_iff (j := j')).2 ⟨hf, hs⟩
    have hmapped : (mapFault fault (Summary.compute loans t.currency)).run j' = (.ok s, j₁) := by
      rw [run_mapFault, hcompute]
      rfl
    rw [run_bind_ok hmapped]
    exact ⟨_, rfl⟩

/-- Whatever loans a list gives, when their amounts add exactly there is a summary of them, and it
agrees with the list and with the alerts. Every order of the loans gives an equal summary. The
dashboard is made of these parts; there is one unless its currency cannot be written as bytes. -/
theorem agrees_of_isExact {ε : Type} (fault : Fault → ε)
    (source : Text → Journaled ε (List Posting)) (t : Loan.ListingTerms) {loans : List Loan}
    {j j' : JournalState} (hlist : (Loan.list fault source t).run j = (.ok loans, j'))
    (hexact : Summary.IsExact loans) :
    ∃ s, Summary.ofLoans loans t.currency = .ok s ∧
      Agrees t.window ⟨loans, s, Alert.ofLoans loans⟩ ∧
      (∀ others, others.Perm loans →
        ∃ s', Summary.ofLoans others t.currency = .ok s' ∧ s'.Equal s) ∧
      (t.currency.IsPlain →
        ∃ j'', (compute fault source t).run j = (.ok ⟨loans, s, Alert.ofLoans loans⟩, j'')) ∧
      ∀ d j'', (compute fault source t).run j = (.ok d, j'') →
        d = ⟨loans, s, Alert.ofLoans loans⟩ := by
  obtain ⟨s, hs, hsummarizes⟩ := Summary.exists_ofLoans hexact t.currency
  have hcoherent := Loan.ensures_list fault source t j loans j' hlist
  refine ⟨s, hs, agrees_of_summarizes hsummarizes hcoherent, fun others hperm => ?_,
    fun hplain => ?_, fun d j'' hd => ?_⟩
  · obtain ⟨s', hs', hsummarizes'⟩ := Summary.exists_ofLoans (hexact.perm hperm) t.currency
    have hcurrency : s'.currency = s.currency :=
      (Summary.currency_of_foldlM hs').trans (Summary.currency_of_foldlM hs).symm
    exact ⟨s', hs', hsummarizes.equal_of_perm hsummarizes' hperm hcurrency⟩
  · exact (run_compute_eq_ok_iff hlist).2 ⟨Summary.exists_fingerprint_of_isPlain hplain, s, hs, rfl⟩
  · obtain ⟨-, s', hs', rfl⟩ := (run_compute_eq_ok_iff hlist).1 ⟨j'', hd⟩
    rw [hs] at hs'
    rw [Except.ok.inj hs']

/-- An overdue loan and one that matures in twenty days. -/
theorem agrees_of_two_loans :
    let asha : Posting := ⟨"Loans:Asha", .finite false 100 0, .newYear2024, .one, "", "Target:10d",
      "INR", by decide⟩
    let ravi : Posting := ⟨"Loans:Ravi", .finite false 5025 (-2), .newYear2024, .one, "",
      "Target:60d", "INR", by decide⟩
    let t : Loan.ListingTerms := ⟨[⟨"all", "Loans:*", "amount", ""⟩],
      ⟨⟨738926, by decide, by decide⟩, 0, none, by decide⟩, "INR", 30⟩
    let source : Text → Journaled Fault (List Posting) := fun _ => pure [ravi, asha]
    ∃ loans j', (Loan.list id source t).run Journaled.empty = (.ok loans, j') ∧
      loans.map Loan.status = [.overdue, .maturing] ∧ Summary.IsExact loans ∧
      ∃ s, Summary.ofLoans loans t.currency = .ok s ∧
        Agrees t.window ⟨loans, s, Alert.ofLoans loans⟩ := by
  intro asha ravi t source
  have hloans : ((Loan.list id source t).run Journaled.empty).1.toOption.map
      (fun loans => (loans.map Loan.status, loans.map Loan.principal, loans.map Loan.currentValue,
        loans.map Loan.gain)) =
      some ([.overdue, .maturing],
        [.finite false 100 0, .finite false 5025 (-2)],
        [.finite false 1000 (-1), .finite false 5025 (-2)],
        [.finite false 0 (-1), .finite false 0 (-2)]) := by
    decide +kernel
  obtain ⟨loans, j', hrun, heq⟩ := exists_of_map_toOption hloans
  obtain ⟨hstatus, heq⟩ := Prod.mk.inj heq
  obtain ⟨hprincipals, heq⟩ := Prod.mk.inj heq
  obtain ⟨hvalues, hgains⟩ := Prod.mk.inj heq
  have hexact : Summary.IsExact loans := by
    constructor
    · rw [hprincipals]
      exact addsExactly_of_exponents (by simp) (by norm_num [toRat, number])
    · rw [hvalues]
      exact addsExactly_of_exponents (by simp) (by norm_num [toRat, number])
    · rw [hgains]
      exact addsExactly_of_exponents (by simp) (by norm_num [toRat, number])
  obtain ⟨s, hs, hagrees, -⟩ := agrees_of_isExact id source t hrun hexact
  exact ⟨loans, j', hrun, hstatus, hexact, s, hs, hagrees⟩

end Dashboard

/-! ### The currency of a service -/

namespace Summary

theorem ensures_compute (loans : List Loan) (currency : Text) :
    Ensures (fun s => s.currency = currency) (compute loans currency) :=
  Journal.Engine.ensures_traced (ensures_lift (fun _ hs =>
    currency_of_foldlM (mapError_eq_ok_iff.1 hs)))

end Summary

namespace Dashboard

def IsIn (currency : Text) (d : Dashboard) : Prop :=
  d.summary.currency = currency ∧ ∀ l ∈ d.loans, l.currency = currency

theorem ensures_compute {ε : Type} (fault : Fault → ε)
    (source : Text → Journaled ε (List Posting)) (t : Loan.ListingTerms) :
    Ensures (IsIn t.currency) (compute fault source t) := by
  refine (Loan.ensures_list fault source t).bind (fun loans hloans => ?_)
  refine ((Summary.ensures_compute loans t.currency).mapFault fault).bind (fun summary hs => ?_)
  refine (ensures_true _).bind (fun _ _ => ensures_pure ⟨hs, fun l hl => ?_⟩)
  obtain ⟨account, ps, s, raw, terms, hcoherent⟩ := hloans l hl
  exact hcoherent.currency_eq

end Dashboard

namespace LoanService

/-- After every history a dashboard is in the currency of the store that its service was set up over.
So it is in the currency of the configuration whose rules it comes from exactly when the history has
not changed the currency. -/
theorem dashboard_isIn {ε δ : Type} (fault : Fault → ε)
    (source : Text → Journaled ε (List Posting)) (read : DocumentReader) (s : ConfigurationStore)
    (window : Int) (rs : List ConfigurationStore.Request) (now : Moment) :
    ∃ t s', StoreWork.Leads (ConfigurationStore.session read rs : StoreWork δ _) s (.ok t) s' ∧
      Ensures (fun d => d.IsIn s.current.currency ∧
          (d.IsIn s'.current.currency ↔ s'.current.currency = s.current.currency))
        ((setUp s window).dashboard fault source s' now) := by
  obtain ⟨t, s', hsession, -⟩ := ConfigurationStore.exists_session (ε := δ) read s rs
  refine ⟨t, s', hsession, ?_⟩
  intro k d k' hd
  have hin : d.IsIn s.current.currency :=
    Dashboard.ensures_compute fault source ((setUp s window).terms s' now) k d k' hd
  refine ⟨hin, fun hnew => ?_, fun heq => ?_⟩
  · exact hnew.1.symm.trans hin.1
  · rw [heq]
    exact hin

/-- When the currency of the store changes under a service, the loans that the new rules select keep
the old currency. -/
theorem not_isIn_after_replace :
    let rules : List Rule := [⟨"all", "Loans:*", "amount", ""⟩]
    let s : ConfigurationStore := ⟨⟨"INR", rules, ""⟩⟩
    let lent : Posting := ⟨"Loans:Asha", .finite false 100 0, .newYear2024, .one, "", "", "INR",
      by decide⟩
    let request : StoreWork Fault Dashboard := do
      let _ ← StoreWork.replace ⟨"USD", rules, ""⟩
      let s' ← get
      StoreWork.ofJournaled
        ((setUp s).dashboard id (fun _ => pure [lent]) s' ⟨.newYear2024, 0, none, by decide⟩)
    ∃ d s' j, request.run s empty = ((.ok d, s'), j) ∧ s'.current.currency = "USD" ∧
      d.summary.currency = "INR" ∧ d.loans.map Loan.currency = ["INR"] ∧
      ¬ d.IsIn s'.current.currency := by
  intro rules s lent request
  have hcurrencies : (request.run s empty).1.2.current.currency = "USD" ∧
      (request.run s empty).1.1.toOption.map
        (fun d => (d.summary.currency, d.loans.map Loan.currency)) =
      some (("INR" : Text), [("INR" : Text)]) := by
    decide +kernel
  rcases hrun : request.run s empty with ⟨⟨r, s'⟩, j⟩
  rw [hrun] at hcurrencies
  obtain ⟨hstore, hmap⟩ := hcurrencies
  cases r with
  | error f => cases hmap
  | ok d =>
      obtain ⟨hsummary, hloans⟩ := Prod.mk.inj (Option.some.inj hmap)
      refine ⟨d, s', j, rfl, hstore, hsummary, hloans, fun hin => ?_⟩
      have hsame := hin.1
      rw [hsummary, hstore] at hsame
      exact absurd hsame (by decide)

end LoanService

end Appraisal
