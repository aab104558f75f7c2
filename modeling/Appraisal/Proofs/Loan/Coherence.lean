import Appraisal.Proofs.Loan.Listing
import Appraisal.Proofs.Number.Operations

/-!
# What holds of every loan

The fields of a loan constrain each other. A derivation that succeeds fixes all of them at once: the
postings are those given, by date and with the postings of one day in their order; the status, the
value, the gain, the maturity and the share that has passed follow from the notes, from what the
postings are worth, from the target duration and from the days that are left.
-/

namespace Appraisal

/-- The first of two decimals has a place in the order that is not above the second. -/
def Decimal.IsAtMost (a b : Decimal) : Prop :=
  Decimal.compare? a b = some .lt ∨ Decimal.compare? a b = some .eq

namespace LoanStatus

theorem ofDaysLeft_eq_overdue_iff {window days : Int} :
    ofDaysLeft window days = .overdue ↔ days < 0 := by
  unfold ofDaysLeft
  by_cases hneg : days < 0
  · simp [hneg]
  · by_cases hwindow : days ≤ window <;> simp [hneg, hwindow]

theorem ofDaysLeft_eq_maturing_iff {window days : Int} :
    ofDaysLeft window days = .maturing ↔ 0 ≤ days ∧ days ≤ window := by
  unfold ofDaysLeft
  by_cases hneg : days < 0
  · simp [hneg]
  · have hnonneg : 0 ≤ days := by omega
    by_cases hwindow : days ≤ window <;> simp [hneg, hnonneg, hwindow]

theorem ofDaysLeft_eq_active_iff {window days : Int} :
    ofDaysLeft window days = .active ↔ 0 ≤ days ∧ window < days := by
  unfold ofDaysLeft
  by_cases hneg : days < 0
  · simp [hneg]
  · have hnonneg : 0 ≤ days := by omega
    by_cases hwindow : days ≤ window
    · simp [hneg, hnonneg, hwindow]
    · simp [hneg, hnonneg, hwindow]
      omega

theorem ofDaysLeft_ne_closed (window days : Int) : ofDaysLeft window days ≠ .closed := by
  unfold ofDaysLeft
  split
  · simp
  · split <;> simp

end LoanStatus

namespace Loan

open Outcome Journaled

/-! ### Shares -/

theorem float_le_of_lt {x y : Float} (h : x < y) : x ≤ y := by
  rw [Binary.float_le_iff, Binary.float_lt_iff.1 h]
  rfl

theorem clampPercent_mem (x : Float) : 0 ≤ clampPercent x ∧ clampPercent x ≤ 100 := by
  have hzero : (0 : Float) ≤ 0 := by decide +kernel
  have hhundred : (0 : Float) ≤ 100 := by decide +kernel
  have hcap : (100 : Float) ≤ 100 := by decide +kernel
  unfold clampPercent
  by_cases hx : x < 100
  · by_cases hpos : 0 < x
    · simp only [hx, hpos, if_true]
      exact ⟨float_le_of_lt hpos, float_le_of_lt hx⟩
    · simp only [hx, hpos, if_true, if_false]
      exact ⟨hzero, hhundred⟩
  · simp only [hx, if_false]
    split
    · exact ⟨hhundred, hcap⟩
    · exact ⟨hzero, hhundred⟩

/-! ### The order of postings -/

/-- The same postings by date, those of one day in the order they had. -/
structure IsByDate (ps ordered : List Posting) : Prop where
  perm : ordered.Perm ps
  byDate : ordered.Pairwise (fun p q => p.date.day ≤ q.date.day)
  stable : ∀ d, ordered.filter (fun p => decide (p.date = d)) =
    ps.filter (fun p => decide (p.date = d))

theorem isByDate_chronological (ps : List Posting) : IsByDate ps (chronological ps) where
  perm := perm_sorted _ ps
  byDate := by
    have hpair : (chronological ps).Pairwise
        (fun p q => decide (q.date.day < p.date.day) = false) :=
      pairwise_sorted (fun p q r hpq hqr => by simp only [decide_eq_true_eq] at *; omega)
        (fun p => by simp) ps
    refine hpair.imp (fun {p q} h => ?_)
    simp only [decide_eq_false_iff_not] at h
    omega
  stable := by
    intro d
    unfold chronological
    rw [filter_sorted (fun p q r hpq hqr => by simp only [decide_eq_true_eq] at *; omega)
      (fun p => by simp) (fun p q r hpq hrq => by
        simp only [decide_eq_true_eq, decide_eq_false_iff_not] at *
        omega)]
    apply sorted_of_unordered
    intro p hp q hq
    have hpd : p.date = d := of_decide_eq_true (List.mem_filter.1 hp).2
    have hqd : q.date = d := of_decide_eq_true (List.mem_filter.1 hq).2
    simp [hpd, hqd]

/-- The first posting by date has the least date. -/
theorem IsByDate.day_le_of_head {ps rest : List Posting} {first : Posting}
    (h : IsByDate ps (first :: rest)) {p : Posting} (hp : p ∈ ps) :
    first.date.day ≤ p.date.day := by
  rcases List.mem_cons.1 (h.perm.mem_iff.2 hp) with rfl | hrest
  · exact Nat.le_refl _
  · exact (List.pairwise_cons.1 h.byDate).1 p hrest

theorem isMarkedClosed_iff {ps qs : List Posting} (h : ps.Perm qs) :
    isMarkedClosed ps = true ↔
      ∃ p ∈ qs, Note.hasCloseMarker [p.transactionNote, p.note] = true := by
  unfold isMarkedClosed
  rw [List.any_eq_true]
  constructor
  · rintro ⟨p, hp, hmarked⟩
    exact ⟨p, h.mem_iff.1 hp, hmarked⟩
  · rintro ⟨p, hp, hmarked⟩
    exact ⟨p, h.mem_iff.2 hp, hmarked⟩

/-! ### Sums -/

/-- What postings are worth together, when they are valued one after the other from a state of the
journal. -/
def Worth (valueOf : Posting → Journaled Fault Decimal) (ps : List Posting) (s : JournalState)
    (value : Decimal) : Prop :=
  ∃ values s', (ps.mapM valueOf).run s = (.ok values, s') ∧ Decimal.sum values = .ok value

theorem Worth.unique {valueOf : Posting → Journaled Fault Decimal} {ps : List Posting}
    {s : JournalState} {v w : Decimal} (hv : Worth valueOf ps s v) (hw : Worth valueOf ps s w) :
    v = w := by
  obtain ⟨vs, s₁, hvs, hv⟩ := hv
  obtain ⟨ws, s₂, hws, hw⟩ := hw
  rw [hvs] at hws
  obtain ⟨hvals, -⟩ := Prod.mk.inj hws
  rw [Except.ok.inj hvals, hw] at hv
  exact (Except.ok.inj hv).symm

theorem run_given_eq_ok_iff {α : Type} {x : Except Fault α} {s s' : JournalState} {a : α} :
    (given x : Journaled Fault α).run s = (.ok a, s') ↔ x = .ok a ∧ s = s' := by
  cases x with
  | error e =>
      constructor
      · intro h
        cases h
      · rintro ⟨h, -⟩
        cases h
  | ok b =>
      constructor
      · intro h
        obtain ⟨hb, hs⟩ := Prod.mk.inj (show ((.ok b : Except Fault α), s) = (.ok a, s') from h)
        exact ⟨hb, hs⟩
      · rintro ⟨hb, rfl⟩
        rw [hb]
        rfl

/-- Adding each value to the sum so far, before the next posting is valued, gives the values and
their sum. -/
theorem exists_values_of_foldlM {valueOf : Posting → Journaled Fault Decimal} {ps : List Posting}
    {start total : Decimal} {s s' : JournalState}
    (h : (ps.foldlM (fun (sum : Decimal) p => (do
      let value ← valueOf p
      given ((sum.add value).mapError .decimal) : Journaled Fault Decimal)) start).run s =
        (.ok total, s')) :
    ∃ values, (ps.mapM valueOf).run s = (.ok values, s') ∧
      values.foldlM Decimal.add start = .ok total := by
  induction ps generalizing start s with
  | nil =>
      cases h
      exact ⟨[], rfl, rfl⟩
  | cons p ps ih =>
      rw [List.foldlM_cons, bind_assoc, run_bind_eq_ok_iff] at h
      obtain ⟨value, s₁, hvalue, h⟩ := h
      rw [run_bind_eq_ok_iff] at h
      obtain ⟨sum, s₂, hsum, h⟩ := h
      obtain ⟨hadd, rfl⟩ := run_given_eq_ok_iff.1 hsum
      obtain ⟨values, hvalues, htotal⟩ := ih h
      refine ⟨value :: values, ?_, ?_⟩
      · rw [List.mapM_cons, run_bind_ok hvalue, run_bind_ok hvalues]
        rfl
      · rw [List.foldlM_cons, mapError_eq_ok_iff.1 hadd]
        exact htotal

theorem worth_of_valueSum {valueOf : Posting → Journaled Fault Decimal} {ps : List Posting}
    {s s' : JournalState} {total : Decimal}
    (h : (valueSum valueOf ps).run s = (.ok total, s')) : Worth valueOf ps s total := by
  obtain ⟨values, hvalues, hsum⟩ := exists_values_of_foldlM h
  exact ⟨values, s', hvalues, hsum⟩

/-! ### What a derivation computes -/

theorem isNothing_eq_ok {value : Decimal} {nothing : Bool} (h : isNothing value = .ok nothing) :
    nothing = true ↔ value.IsAtMost .zero := by
  unfold isNothing Decimal.order at h
  unfold Decimal.IsAtMost
  cases ho : Decimal.compare? value .zero with
  | none =>
      rw [ho] at h
      cases h
  | some o =>
      rw [ho] at h
      obtain rfl : (o != .gt) = nothing := Except.ok.inj h
      cases o <;> simp

theorem equal_eq_ok_iff {a b : Decimal} {r : Bool} (h : a.equal b = .ok r) :
    r = true ↔ Decimal.compare? a b = some .eq := by
  unfold Decimal.equal at h
  split at h
  · cases h
  · rw [← Except.ok.inj h, beq_iff_eq]

theorem gainOf_eq_ok {closed : Bool} {currentValue principal raw gain : Decimal}
    (h : gainOf closed currentValue principal raw = .ok gain) :
    (closed = true ∧ Decimal.compare? raw .zero = some .eq → gain = .zero) ∧
      (¬ (closed = true ∧ Decimal.compare? raw .zero = some .eq) →
        currentValue.sub principal = .ok gain) := by
  unfold gainOf at h
  obtain ⟨difference, hsub, h⟩ := bind_eq_ok_iff.1 h
  rw [mapError_eq_ok_iff] at hsub
  cases closed with
  | false =>
      obtain rfl := Except.ok.inj h
      exact ⟨fun hboth => by simp at hboth, fun _ => hsub⟩
  | true =>
      obtain ⟨settled, hequal, h⟩ := bind_eq_ok_iff.1 h
      have hsettled := equal_eq_ok_iff (mapError_eq_ok_iff.1 hequal)
      have hgain : (if settled = true then Decimal.zero else difference) = gain := Except.ok.inj h
      constructor
      · rintro ⟨-, heq⟩
        rw [← hgain, if_pos (hsettled.2 heq)]
      · intro hnot
        rw [← hgain, if_neg (fun ht => hnot ⟨rfl, hsettled.1 ht⟩)]
        exact hsub

theorem day_of_plusDays? {d e : Date} {n : Int} (h : d.plusDays? n = some e) :
    (e.day : Int) = d.day + n := by
  unfold Date.plusDays? Date.ofDay? at h
  split at h
  · obtain rfl := Option.some.inj h
    show (((d.day + n).toNat : Nat) : Int) = d.day + n
    omega
  · cases h

theorem maturityOf_eq_ok {start maturity : Date} {targetDays : Int}
    (h : maturityOf start targetDays = .ok maturity) :
    (maturity.day : Int) = start.day + targetDays := by
  unfold maturityOf at h
  obtain ⟨micros, -, h⟩ := bind_eq_ok_iff.1 h
  split at h
  · rename_i d hd
    rw [← Except.ok.inj h]
    exact day_of_plusDays? hd
  · cases h

/-- What holds of the progress of a loan that started on a date, with a target duration and after
so many days: its maturity and its share are those of its status, and the status of an open loan is
that of the days left. -/
structure Progress.Coherent (start : Date) (targetDays daysHeld : Int) (now : Moment) (window : Int)
    (p : Progress) : Prop where
  closed : p.status = .closed → p.percentComplete = 100 ∧ p.maturity = none ∧ p.daysToMaturity = 0
  maturity_isSome_iff : p.maturity.isSome = true ↔ p.status ≠ .closed ∧ 0 < targetDays
  maturity_eq : ∀ d, p.maturity = some d →
    (d.day : Int) = start.day + targetDays ∧ wholeDays d now = .ok (-p.daysToMaturity)
  untargeted : p.status ≠ .closed → targetDays ≤ 0 →
    p.status = .active ∧ p.percentComplete = 0 ∧ p.daysToMaturity = 0
  targeted : p.status ≠ .closed → 0 < targetDays →
    (p.status = .overdue ↔ p.daysToMaturity < 0) ∧
    (p.status = .maturing ↔ 0 ≤ p.daysToMaturity ∧ p.daysToMaturity ≤ window) ∧
    (p.status = .active ↔ 0 ≤ p.daysToMaturity ∧ window < p.daysToMaturity) ∧
    p.percentComplete = percentOf daysHeld targetDays
  percent_mem : 0 ≤ p.percentComplete ∧ p.percentComplete ≤ 100

variable {start : Date} {targetDays daysHeld window : Int} {now : Moment} {p : Progress}

theorem coherent_of_target (htarget : 0 < targetDays)
    (h : progress false start targetDays daysHeld now window = .ok p) :
    p.Coherent start targetDays daysHeld now window ∧ p.status ≠ .closed := by
  unfold progress at h
  rw [if_neg (by simp), if_pos htarget] at h
  obtain ⟨maturity, hmaturity, h⟩ := bind_eq_ok_iff.1 h
  obtain ⟨past, hpast, h⟩ := bind_eq_ok_iff.1 h
  obtain rfl := Except.ok.inj h
  have hopen := LoanStatus.ofDaysLeft_ne_closed window (-past)
  refine ⟨?_, hopen⟩
  constructor
  · exact fun hclosed => absurd hclosed hopen
  · exact ⟨fun _ => ⟨hopen, htarget⟩, fun _ => rfl⟩
  · intro d hd
    obtain rfl := Option.some.inj hd
    exact ⟨maturityOf_eq_ok hmaturity, by rw [Int.neg_neg]; exact hpast⟩
  · intro _ hnone
    omega
  · exact fun _ _ => ⟨LoanStatus.ofDaysLeft_eq_overdue_iff, LoanStatus.ofDaysLeft_eq_maturing_iff,
      LoanStatus.ofDaysLeft_eq_active_iff, rfl⟩
  · exact clampPercent_mem _

theorem coherent_of_no_target (htarget : targetDays ≤ 0)
    (h : progress false start targetDays daysHeld now window = .ok p) :
    p.Coherent start targetDays daysHeld now window ∧ p.status ≠ .closed := by
  unfold progress at h
  rw [if_neg (by simp), if_neg (by omega)] at h
  obtain rfl := Except.ok.inj h
  refine ⟨?_, by simp⟩
  constructor
  · simp
  · simp
    omega
  · simp
  · exact fun _ _ => ⟨rfl, rfl, rfl⟩
  · intro _ hsome
    omega
  · decide +kernel

theorem coherent_of_closed (h : progress true start targetDays daysHeld now window = .ok p) :
    p.Coherent start targetDays daysHeld now window ∧ p.status = .closed := by
  obtain rfl := Except.ok.inj h
  refine ⟨?_, rfl⟩
  constructor
  · exact fun _ => ⟨rfl, rfl, rfl⟩
  · simp
  · simp
  · exact fun hopen => absurd rfl hopen
  · exact fun hopen => absurd rfl hopen
  · decide +kernel

theorem coherent_progress {closed : Bool}
    (h : progress closed start targetDays daysHeld now window = .ok p) :
    p.Coherent start targetDays daysHeld now window ∧ (p.status = .closed ↔ closed = true) := by
  cases closed with
  | true =>
      obtain ⟨hp, hclosed⟩ := coherent_of_closed h
      exact ⟨hp, by simp [hclosed]⟩
  | false =>
      by_cases htarget : 0 < targetDays
      · obtain ⟨hp, hopen⟩ := coherent_of_target htarget h
        exact ⟨hp, by simp [hopen]⟩
      · obtain ⟨hp, hopen⟩ := coherent_of_no_target (Int.not_lt.1 htarget) h
        exact ⟨hp, by simp [hopen]⟩

theorem Progress.Coherent.overdue_iff (h : p.Coherent start targetDays daysHeld now window) :
    p.status = .overdue ↔ p.daysToMaturity < 0 := by
  by_cases hclosed : p.status = .closed
  · obtain ⟨-, -, hdays⟩ := h.closed hclosed
    simp [hclosed, hdays]
  · by_cases htarget : 0 < targetDays
    · exact (h.targeted hclosed htarget).1
    · obtain ⟨hactive, -, hdays⟩ := h.untargeted hclosed (Int.not_lt.1 htarget)
      simp [hactive, hdays]

theorem Progress.Coherent.days_of_maturing (h : p.Coherent start targetDays daysHeld now window)
    (hmaturing : p.status = .maturing) : 0 ≤ p.daysToMaturity ∧ p.daysToMaturity ≤ window := by
  have hopen : p.status ≠ .closed := by
    rw [hmaturing]
    decide
  by_cases htarget : 0 < targetDays
  · exact (h.targeted hopen htarget).2.1.1 hmaturing
  · obtain ⟨hactive, -⟩ := h.untargeted hopen (Int.not_lt.1 htarget)
    rw [hmaturing] at hactive
    cases hactive

/-! ### Coherence -/

def progressOf (l : Loan) : Progress :=
  ⟨l.status, l.maturity, l.daysToMaturity, l.percentComplete⟩

/-- What holds of a loan of an account that is derived from postings at an instant, with a window in
which loans count as maturing. The amounts of the postings sum up to `raw`, and `terms` are those of
the note of the first posting by date; what the postings are worth is asked from the state `s` of the
journal. -/
structure Coherent (account currency : Text) (ps : List Posting) (now : Moment) (window : Int)
    (valueOf : Posting → Journaled Fault Decimal) (s : JournalState) (raw : Decimal)
    (terms : Note.Terms) (l : Loan) : Prop where
  account_eq : l.account = account
  currency_eq : l.currency = currency
  byDate : IsByDate ps l.postings
  start_mem : ∃ p ∈ ps, p.date = l.start
  start_le : ∀ p ∈ ps, l.start.day ≤ p.date.day
  principal_eq : principalOf l.postings = .ok l.principal
  raw_eq : rawBalance l.postings = .ok raw
  terms_eq : ∃ first, l.postings.head? = some first ∧
    Note.Terms.ofNote first.transactionNote = .ok terms
  declared : l.interestRate = terms.interestRate ∧ l.period = terms.period ∧
    l.risk = terms.risk.name
  closed_iff : l.status = .closed ↔
    (∃ p ∈ ps, Note.hasCloseMarker [p.transactionNote, p.note] = true) ∨
      ∃ value, Worth valueOf l.postings s value ∧ value.IsAtMost .zero
  value_of_closed : l.status = .closed → l.currentValue = raw
  value_of_open : l.status ≠ .closed → Worth valueOf l.postings s l.currentValue
  gain_of_settled : l.status = .closed ∧ Decimal.compare? raw .zero = some .eq → l.gain = .zero
  gain_eq : ¬ (l.status = .closed ∧ Decimal.compare? raw .zero = some .eq) →
    l.currentValue.sub l.principal = .ok l.gain
  progress : (progressOf l).Coherent l.start terms.targetDays l.daysHeld now window
  daysHeld_eq : wholeDays l.start now = .ok l.daysHeld
  daysOverdue_eq : l.daysOverdue = max 0 (-l.daysToMaturity)

variable {account currency : Text} {ps : List Posting}
  {valueOf : Posting → Journaled Fault Decimal} {s s' : JournalState}

/-- A loan counts as closed when it is marked or when its worth is at most zero; a marked loan need
not have a worth. -/
theorem counts_closed_iff {ordered : List Posting} {value : Decimal} {nothing : Bool}
    (hps : IsByDate ps ordered)
    (hvalue : isMarkedClosed ordered = false → Worth valueOf ordered s value)
    (hnothing : isNothing value = .ok nothing) :
    (isMarkedClosed ordered || nothing) = true ↔
      (∃ p ∈ ps, Note.hasCloseMarker [p.transactionNote, p.note] = true) ∨
        ∃ v, Worth valueOf ordered s v ∧ v.IsAtMost .zero := by
  have hmarked := isMarkedClosed_iff hps.perm
  cases hm : isMarkedClosed ordered with
  | true => exact ⟨fun _ => .inl (hmarked.1 hm), fun _ => rfl⟩
  | false =>
      have hworth := hvalue hm
      rw [Bool.false_or, isNothing_eq_ok hnothing]
      constructor
      · exact fun hle => .inr ⟨value, hworth, hle⟩
      · rintro (hmarker | ⟨v, hv, hle⟩)
        · rw [hmarked.2 hmarker] at hm
          cases hm
        · rwa [hv.unique hworth] at hle

/-- What the loan of sums goes through, and what it is made of. -/
theorem ofSums_eq_ok_iff {first : Posting} {postings : List Posting}
    {principal raw value : Decimal} {l : Loan} :
    ofSums account currency first postings principal raw value now window = .ok l ↔
      ∃ nothing terms daysHeld p gain, isNothing value = .ok nothing ∧
        Note.Terms.ofNote first.transactionNote = .ok terms ∧
        wholeDays first.date now = .ok daysHeld ∧
        progress (isMarkedClosed postings || nothing) first.date terms.targetDays daysHeld now
          window = .ok p ∧
        gainOf (isMarkedClosed postings || nothing)
          (if isMarkedClosed postings || nothing then raw else value) principal raw = .ok gain ∧
        l = ⟨account, principal, if isMarkedClosed postings || nothing then raw else value, gain,
          terms.interestRate, terms.period, first.date, p.maturity, p.daysToMaturity, daysHeld,
          p.status, terms.risk.name, p.percentComplete, postings, currency⟩ := by
  unfold ofSums
  simp only [bind_eq_ok_iff, mapError_eq_ok_iff, pure_eq_ok, Except.ok.injEq]
  constructor
  · rintro ⟨nothing, hnothing, terms, hterms, daysHeld, hdays, p, hp, gain, hgain, rfl⟩
    exact ⟨nothing, terms, daysHeld, p, gain, hnothing, hterms, hdays, hp, hgain, rfl⟩
  · rintro ⟨nothing, terms, daysHeld, p, gain, hnothing, hterms, hdays, hp, hgain, rfl⟩
    exact ⟨nothing, hnothing, terms, hterms, daysHeld, hdays, p, hp, gain, hgain, rfl⟩

/-- The loan of the sums of postings is coherent. A marked loan is not valued. -/
theorem coherent_of_ofSums {first : Posting} {rest : List Posting} {principal raw value : Decimal}
    {l : Loan} (hps : IsByDate ps (first :: rest))
    (hprincipal : principalOf (first :: rest) = .ok principal)
    (hraw : rawBalance (first :: rest) = .ok raw)
    (hvalue : isMarkedClosed (first :: rest) = false → Worth valueOf (first :: rest) s value)
    (h : ofSums account currency first (first :: rest) principal raw value now window = .ok l) :
    ∃ terms, Coherent account currency ps now window valueOf s raw terms l := by
  obtain ⟨nothing, terms, daysHeld, p, gain, hnothing, hterms, hdays, hprogress, hgain, rfl⟩ :=
    ofSums_eq_ok_iff.1 h
  obtain ⟨hp, hstatus⟩ := coherent_progress hprogress
  have hclosed := hstatus.trans (counts_closed_iff hps hvalue hnothing)
  obtain ⟨hsettled, hgained⟩ := gainOf_eq_ok hgain
  have hunmarked (hopen : p.status ≠ .closed) : isMarkedClosed (first :: rest) = false := by
    rw [ne_eq, hstatus, Bool.or_eq_true, not_or] at hopen
    simpa using hopen.1
  refine ⟨terms, rfl, rfl, hps, ⟨first, hps.perm.mem_iff.1 List.mem_cons_self, rfl⟩,
    fun q hq => hps.day_le_of_head hq, hprincipal, hraw,
    ⟨first, rfl, hterms⟩, ⟨rfl, rfl, rfl⟩, hclosed, ?_, ?_, ?_, ?_, hp,
    hdays, ?_⟩
  · exact fun hc => if_pos (hstatus.1 hc)
  · intro hopen
    show Worth valueOf _ s (if _ then raw else value)
    rw [if_neg (fun hc => hopen (hstatus.2 hc))]
    exact hvalue (hunmarked hopen)
  · exact fun hc => hsettled ⟨hstatus.1 hc.1, hc.2⟩
  · exact fun hc => hgained (fun hboth => hc ⟨hstatus.2 hboth.1, hboth.2⟩)
  · show (if p.status = .overdue then -p.daysToMaturity else 0) = max 0 (-p.daysToMaturity)
    by_cases hneg : p.daysToMaturity < 0
    · rw [if_pos (hp.overdue_iff.2 hneg)]
      omega
    · rw [if_neg (fun hoverdue => hneg (hp.overdue_iff.1 hoverdue))]
      omega

/-- What a derivation from postings goes through: their order, their sums, their worth unless they
are marked, and the loan of these. -/
theorem exists_ofSums_of_ofPostings? {o : Option Loan} (hps : ps ≠ [])
    (h : (ofPostings? account ps now valueOf currency window).run s = (.ok o, s')) :
    ∃ first rest principal raw value l, chronological ps = first :: rest ∧
      principalOf (first :: rest) = .ok principal ∧ rawBalance (first :: rest) = .ok raw ∧
      (isMarkedClosed (first :: rest) = true → value = raw) ∧
      (isMarkedClosed (first :: rest) = false → Worth valueOf (first :: rest) s value) ∧
      ofSums account currency first (first :: rest) principal raw value now window = .ok l ∧
      o = some l := by
  unfold ofPostings? at h
  cases hc : chronological ps with
  | nil => exact absurd hc (chronological_ne_nil hps)
  | cons first rest =>
      rw [hc] at h
      dsimp only at h
      obtain ⟨principal, s₁, hrun, h⟩ := run_bind_eq_ok_iff.1 h
      obtain ⟨hprincipal, rfl⟩ := run_given_eq_ok_iff.1 hrun
      obtain ⟨raw, s₁, hrun, h⟩ := run_bind_eq_ok_iff.1 h
      obtain ⟨hraw, rfl⟩ := run_given_eq_ok_iff.1 hrun
      -- a marked loan goes on with its raw sum in the place of its worth
      obtain ⟨value, s₁, hmarked, hvalue, h⟩ : ∃ value s₁,
          (isMarkedClosed (first :: rest) = true → value = raw) ∧
          (isMarkedClosed (first :: rest) = false → Worth valueOf (first :: rest) s value) ∧
          (do
            let loan ← given (ofSums account currency first (first :: rest) principal raw value now
              window)
            return some loan : Journaled Fault (Option Loan)).run s₁ = (.ok o, s') := by
        by_cases hm : isMarkedClosed (first :: rest) = true
        · rw [if_pos hm] at h
          exact ⟨raw, s, fun _ => rfl, fun hnot => by simp [hm] at hnot, h⟩
        · rw [if_neg hm] at h
          obtain ⟨value, s₁, hvalue, h⟩ := run_bind_eq_ok_iff.1 h
          exact ⟨value, s₁, fun hyes => absurd hyes hm, fun _ => worth_of_valueSum hvalue, h⟩
      obtain ⟨l, s₂, hrun, h⟩ := run_bind_eq_ok_iff.1 h
      obtain ⟨hl, -⟩ := run_given_eq_ok_iff.1 hrun
      obtain ⟨ho, -⟩ := Prod.mk.inj h
      exact ⟨first, rest, principal, raw, value, l, rfl, mapError_eq_ok_iff.1 hprincipal,
        mapError_eq_ok_iff.1 hraw, hmarked, hvalue, hl, (Except.ok.inj ho).symm⟩

theorem coherent_of_ofPostings? {o : Option Loan} (hps : ps ≠ [])
    (h : (ofPostings? account ps now valueOf currency window).run s = (.ok o, s')) :
    ∃ l raw terms, o = some l ∧ Coherent account currency ps now window valueOf s raw terms l := by
  obtain ⟨first, rest, principal, raw, value, l, hc, hprincipal, hraw, -, hvalue, hl, ho⟩ :=
    exists_ofSums_of_ofPostings? hps h
  have hdate := isByDate_chronological ps
  rw [hc] at hdate
  obtain ⟨terms, hcoherent⟩ := coherent_of_ofSums hdate hprincipal hraw hvalue hl
  exact ⟨l, raw, terms, ho, hcoherent⟩

/-! ### Derivations -/

/-- Recording a derivation does not change what is derived. -/
theorem run_derive?_eq_ok_iff {o : Option Loan} :
    (∃ s', (derive? account ps now valueOf currency window).run s = (.ok o, s')) ↔
      (∃ f, engine.fingerprint (inputs account ps now) = .ok f) ∧
        ∃ s', (ofPostings? account ps now valueOf currency window).run s = (.ok o, s') := by
  unfold derive?
  rw [Journal.Engine.run_traced_eq_ok_iff]
  refine and_congr Iff.rfl ?_
  constructor
  · rintro ⟨s', h⟩
    obtain ⟨o', s₁, ho, h⟩ := run_bind_eq_ok_iff.1 h
    cases o' with
    | none =>
        obtain ⟨ho', -⟩ := Prod.mk.inj (show (Except.ok none, s₁) = (.ok o, s') from h)
        exact ⟨s₁, by rw [← Except.ok.inj ho']; exact ho⟩
    | some l =>
        obtain ⟨u, s₂, -, h⟩ := run_bind_eq_ok_iff.1 h
        obtain ⟨ho', -⟩ := Prod.mk.inj (show (Except.ok (some l), s₂) = (.ok o, s') from h)
        exact ⟨s₁, by rw [← Except.ok.inj ho']; exact ho⟩
  · rintro ⟨s₁, ho⟩
    rw [run_bind_ok ho]
    cases o with
    | none => exact ⟨_, rfl⟩
    | some l => exact ⟨_, rfl⟩

/-- There are postings where a derivation gives a loan, so that the loan is coherent. -/
theorem exists_coherent_of_run_derive? {l : Loan}
    (h : (derive? account ps now valueOf currency window).run s = (.ok (some l), s')) :
    ∃ raw terms, Coherent account currency ps now window valueOf s raw terms l := by
  obtain ⟨-, s₁, hrun⟩ := run_derive?_eq_ok_iff.1 ⟨s', h⟩
  by_cases hps : ps = []
  · rw [hps] at hrun
    cases (Prod.mk.inj (show (Except.ok none, s) = (.ok (some l), s₁) from hrun)).1
  · obtain ⟨l', raw, terms, hl, hcoherent⟩ := coherent_of_ofPostings? hps hrun
    rw [Option.some.inj hl]
    exact ⟨raw, terms, hcoherent⟩

/-- The loan is coherent for some account and postings, on the terms of a list. -/
def IsCoherent (t : ListingTerms) (l : Loan) : Prop :=
  ∃ account ps s raw terms, Coherent account t.currency ps t.now t.window
    (Loan.valueOf t.rules t.now) s raw terms l

theorem ensures_derive? (t : ListingTerms) (account : Text) (ps : List Posting) :
    Ensures (fun o => ∀ l, o = some l → IsCoherent t l)
      (derive? account ps t.now (Loan.valueOf t.rules t.now) t.currency t.window) := by
  intro s o s' hrun l hl
  rw [hl] at hrun
  obtain ⟨raw, terms, hcoherent⟩ := exists_coherent_of_run_derive? hrun
  exact ⟨account, ps, s, raw, terms, hcoherent⟩

/-- What a posting is worth is not asked of a loan that is marked as closed. -/
theorem derive?_eq_of_marked (hmarked : isMarkedClosed (chronological ps) = true)
    (valueOf' : Posting → Journaled Fault Decimal) :
    derive? account ps now valueOf' currency window =
      derive? account ps now valueOf currency window := by
  have heq : ofPostings? account ps now valueOf' currency window =
      ofPostings? account ps now valueOf currency window := by
    unfold ofPostings?
    cases hc : chronological ps with
    | nil => rfl
    | cons first rest =>
        rw [hc] at hmarked
        simp only [hmarked, if_true]
  unfold derive?
  rw [heq]

/-- A derivation from postings that ends gives a loan, and one that is coherent. When a note marks
the loan as closed, no posting is valued. -/
theorem coherent_of_derive? (hps : ps ≠ []) {o : Option Loan}
    (h : (derive? account ps now valueOf currency window).run s = (.ok o, s')) :
    (∃ l raw terms, o = some l ∧
      Coherent account currency ps now window valueOf s raw terms l) ∧
    ((∃ p ∈ ps, Note.hasCloseMarker [p.transactionNote, p.note] = true) →
      ∀ valueOf', derive? account ps now valueOf' currency window =
        derive? account ps now valueOf currency window) := by
  obtain ⟨-, s₁, hrun⟩ := run_derive?_eq_ok_iff.1 ⟨s', h⟩
  refine ⟨coherent_of_ofPostings? hps hrun, fun hmarker valueOf' => ?_⟩
  have hperm := (isByDate_chronological ps).perm
  exact derive?_eq_of_marked ((isMarkedClosed_iff hperm).2 hmarker) valueOf'

/-- A hundred lent for sixty days, of which thirty came back on the fifteenth day, when forty days
have passed. -/
theorem derive?_of_partly_repaid :
    let lent : Posting := ⟨"Loans:Asha", .finite false 100 0, .newYear2024, .one, "", "Target:60d",
      "INR", by decide⟩
    let repaid : Posting := ⟨"Loans:Asha", .finite true 30 0, ⟨738900, by decide, by decide⟩, .one,
      "", "", "INR", by decide⟩
    let now : Moment := ⟨⟨738926, by decide, by decide⟩, 0, none, by decide⟩
    let valueOf : Posting → Journaled Fault Decimal := fun p => pure p.amount
    [repaid, lent] ≠ [] ∧
      ∃ o s', (derive? "Loans:Asha" [repaid, lent] now valueOf "INR" 30).run empty = (.ok o, s') ∧
        ∃ l raw terms, o = some l ∧
          Coherent "Loans:Asha" "INR" [repaid, lent] now 30 valueOf empty raw terms l ∧
          l.status = .maturing ∧ l.daysToMaturity = 20 := by
  intro lent repaid now valueOf
  have hstatus : ((ofPostings? "Loans:Asha" [repaid, lent] now valueOf "INR" 30).run
      empty).1.toOption.map (fun o => o.map (fun l => (l.status, l.daysToMaturity))) =
        some (some (.maturing, 20)) := by
    decide +kernel
  have hfingerprint :=
    exists_fingerprint_inputs (Text.isPlain_ofString "Loans:Asha") [repaid, lent] now
  obtain ⟨o, s₁, hrun, ho⟩ := exists_of_map_toOption hstatus
  obtain ⟨s', hderive⟩ := run_derive?_eq_ok_iff.2 ⟨hfingerprint, s₁, hrun⟩
  obtain ⟨⟨l, raw, terms, rfl, hcoherent⟩, -⟩ := coherent_of_derive? (by simp) hderive
  obtain ⟨hmaturing, hdays⟩ := Prod.mk.inj (Option.some.inj ho)
  exact ⟨by simp, some l, s', hderive, l, raw, terms, rfl, hcoherent, hmaturing, hdays⟩

/-! ### Lists -/

section

variable {t : ListingTerms}

theorem ensures_attempt (t : ListingTerms) (account : Text) (ps : List Posting) :
    Ensures (fun o => ∀ l, o = some l → IsCoherent t l) (attempt t account ps) := by
  unfold attempt
  refine Ensures.bound ?_ _
  refine (ensures_derive? t account ps).outcome.bind (fun r hr => ?_)
  cases r with
  | ok o => exact ensures_pure (hr o rfl)
  | error e =>
      dsimp only
      split
      · exact (ensures_true _).bind (fun _ _ => ensures_pure (fun l hl => by cases hl))
      · exact ensures_throw e

theorem ensures_addAccounts {found : Found} (accounts : List (Text × List Posting))
    (h : ∀ l ∈ found.loans, IsCoherent t l) :
    Ensures (fun found' : Found => ∀ l ∈ found'.loans, IsCoherent t l)
      (addAccounts t found accounts) := by
  induction accounts generalizing found with
  | nil => exact ensures_pure h
  | cons a rest ih =>
      obtain ⟨account, ps⟩ := a
      unfold addAccounts
      split
      · exact ih h
      · refine (ensures_attempt t account ps).bind (fun o ho => ih ?_)
        intro l hl
        rcases List.mem_append.1 hl with hl | hl
        · exact h l hl
        · exact ho l (by simpa using hl)

variable {ε : Type} (fault : Fault → ε) (source : Text → Journaled ε (List Posting))

theorem ensures_addRules {found : Found} (rules : List Rule)
    (h : ∀ l ∈ found.loans, IsCoherent t l) :
    Ensures (fun found' : Found => ∀ l ∈ found'.loans, IsCoherent t l)
      (addRules fault source t found rules) := by
  induction rules generalizing found with
  | nil => exact ensures_pure h
  | cons r rest ih =>
      unfold addRules
      split
      · exact ih h
      · refine (ensures_true (source r.account)).bind (fun candidates _ => ?_)
        refine ((ensures_addAccounts _ h).mapFault fault).bind (fun found' h' => ?_)
        exact ih h'

/-- Whatever the source gives, the loans of a list are coherent. -/
theorem ensures_list (t : ListingTerms) :
    Ensures (fun loans : List Loan => ∀ l ∈ loans, IsCoherent t l) (list fault source t) := by
  have hempty : ∀ l ∈ (⟨[], []⟩ : Found).loans, IsCoherent t l := fun l hl => by cases hl
  refine (ensures_addRules fault source t.rules hempty).bind (fun found hfound => ?_)
  refine (ensures_true _).bind (fun _ _ => ensures_pure (fun l hl => ?_))
  exact hfound l (mem_listed.1 hl)

end

end Loan

end Appraisal
