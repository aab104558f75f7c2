import Appraisal.Proofs.Loan.Coherence

/-!
# Loans as time passes

When a loan is derived again at a later instant of one clock, and its postings are worth what they
were, it has not gone back: it was held no shorter, its maturity is no further off, its share has not
shrunk and its status has come no later in the order of attention. What does not depend on the
instant is as it was. The days are a ratio that is rounded to a double twice and then cut off toward
zero, and the share is one that is rounded, multiplied and rounded again; each of these steps keeps
the order.
-/

namespace Appraisal

/-! ### Instants -/

namespace Moment

/-- What the clock of a moment shows, in microseconds since the day before the first date. -/
def reading (t : Moment) : Int := t.date.day * microsPerDay + t.micros

/-- Moments of one zone are in the order of what their clocks show. -/
theorem reading_le_iff {a b : Moment} (h : a.offset = b.offset) :
    a.reading ≤ b.reading ↔ order a b ≠ .gt := by
  unfold order instant reading
  rw [h, ne_eq, Int.compare_eq_gt]
  omega

theorem microsSince_mono (start : Date) {a b : Moment} (h : a.reading ≤ b.reading) :
    microsSince start a ≤ microsSince start b := by
  unfold reading at h
  unfold microsSince Date.daysTo
  rw [sub_mul, sub_mul]
  omega

end Moment

namespace LoanStatus

/-- The fewer days an open loan has left, the sooner it is listed. -/
theorem rank_ofDaysLeft_mono (window : Int) {days days' : Int} (h : days' ≤ days) :
    (ofDaysLeft window days').rank ≤ (ofDaysLeft window days).rank := by
  unfold ofDaysLeft
  by_cases hneg : days' < 0
  · rw [if_pos hneg]
    exact Nat.zero_le _
  · rw [if_neg hneg, if_neg (by omega : ¬ days < 0)]
    by_cases hwindow : days' ≤ window
    · rw [if_pos hwindow]
      split <;> decide
    · rw [if_neg hwindow, if_neg (by omega)]

end LoanStatus

namespace Loan

open Binary Journaled Outcome

theorem wholeDays_mono {start : Date} {now now' : Moment} {days days' : Int}
    (hnow : now.reading ≤ now'.reading) (h : wholeDays start now = .ok days)
    (h' : wholeDays start now' = .ok days') : days ≤ days' :=
  truncateInt_scale_mono (by decide : secondsPerDay ≠ 0) (mapError_eq_ok_iff.1 h)
    (mapError_eq_ok_iff.1 h') (by decide) (Moment.microsSince_mono start hnow)

/-! ### Shares -/

def hundredBits : Nat := 0x4059000000000000

theorem hundred_eq : (100 : Float) = signed false hundredBits := by decide +kernel

theorem zero_eq : (0 : Float) = signed false 0 := by decide +kernel

theorem hundredBits_le : hundredBits ≤ infiniteBits := by decide

theorem ofFloat_hundred : ofFloat 100 = .finite false (100 * 2 ^ 46) (-46) := by decide +kernel

theorem clampPercent_signed {bits : Nat} (h : bits ≤ infiniteBits) :
    clampPercent (signed false bits) = signed false (min bits hundredBits) := by
  have hcapped : (if signed false bits < 100 then signed false bits else 100) =
      signed false (min bits hundredBits) := by
    rw [hundred_eq]
    by_cases hlt : bits < hundredBits
    · rw [if_pos ((signed_lt_signed_iff h hundredBits_le).2 hlt), min_eq_left hlt.le]
    · rw [if_neg (fun hf => hlt ((signed_lt_signed_iff h hundredBits_le).1 hf)),
        min_eq_right (Nat.not_lt.1 hlt)]
  have hmin : min bits hundredBits ≤ infiniteBits := (min_le_left _ _).trans h
  unfold clampPercent
  simp only [hcapped]
  rw [zero_eq]
  by_cases hpos : 0 < min bits hundredBits
  · rw [if_pos ((signed_lt_signed_iff (Nat.zero_le _) hmin).2 hpos)]
  · rw [if_neg (fun hf => hpos ((signed_lt_signed_iff (Nat.zero_le _) hmin).1 hf)),
      Nat.eq_zero_of_not_pos hpos]

/-- A share with a minus sign is cut off at zero, and so is a zero with one. -/
theorem clampPercent_signed_true {bits : Nat} (h : bits ≤ infiniteBits) :
    clampPercent (signed true bits) = 0 := by
  have hzero : ¬ (0 : Float) < signed true bits := by
    have hunpack : (0 : Float).toModel.unpack = .zero .positive := rfl
    rw [float_lt_iff, hunpack]
    intro hlt
    rcases unpack_signed h true with ⟨-, hx⟩ | ⟨-, m, place, -, hx⟩
    · rw [hx] at hlt
      cases hlt
    · rw [hx, unpacked] at hlt
      split at hlt <;> cases hlt
  have hcap : signed true bits < 100 := by
    rw [float_lt_iff, unpack_of_ofFloat ofFloat_hundred]
    rcases unpack_signed h true with ⟨-, hx⟩ | ⟨-, m, place, -, hx⟩
    · rw [hx]
      rfl
    · rw [hx, unpacked]
      split <;> rfl
  unfold clampPercent
  simp only [hcap, if_true]
  rw [if_neg hzero]

/-- A finite share times a hundred is rounded once more. -/
theorem exists_mul_hundred_eq {bits : Nat} (h : bits < infiniteBits) (negative : Bool) :
    ∃ num den : Nat, den ≠ 0 ∧
      (num : ℚ) / den = (ofFloat (signed negative bits)).magnitude * 100 ∧
      signed negative bits * 100 = nearest negative num den := by
  obtain ⟨m, place, -, hm⟩ := exists_spells h
  obtain ⟨num, den, hden, hratio, hnearest⟩ := exists_nearestScaled_eq negative
    (m * (100 * 2 ^ 46)) (place + leastExponent + -46)
  refine ⟨num, den, hden, ?_, ?_⟩
  · rw [hratio, hm, zpow_add₀ (by norm_num) _ (-46), magnitude]
    push_cast
    ring
  · rw [mul_eq_nearestScaled (hm negative) ofFloat_hundred, Bool.bne_false, hnearest]

theorem infinite_mul_hundred (negative : Bool) :
    signed negative infiniteBits * 100 = signed negative infiniteBits := by
  cases negative <;> decide +kernel

theorem exists_percent_bits {bits bits' : Nat} (hle : bits ≤ bits') (h' : bits' ≤ infiniteBits) :
    ∃ b b', b ≤ b' ∧ b' ≤ infiniteBits ∧ signed false bits * 100 = signed false b ∧
      signed false bits' * 100 = signed false b' := by
  rcases h'.lt_or_eq with hlt | rfl
  · obtain ⟨num, den, hden, hratio, hmul⟩ := exists_mul_hundred_eq (hle.trans_lt hlt) false
    obtain ⟨num', den', hden', hratio', hmul'⟩ := exists_mul_hundred_eq hlt false
    refine ⟨_, _, ?_, nearestBits_le num' den', hmul, hmul'⟩
    apply nearestBits_mono hden hden'
    rw [hratio, hratio']
    exact mul_le_mul_of_nonneg_right (magnitude_signed_mono hle hlt) (by norm_num)
  · rcases hle.lt_or_eq with hlt | rfl
    · obtain ⟨num, den, -, -, hmul⟩ := exists_mul_hundred_eq hlt false
      exact ⟨_, _, nearestBits_le num den, le_rfl, hmul, infinite_mul_hundred false⟩
    · exact ⟨_, _, le_rfl, le_rfl, infinite_mul_hundred false, infinite_mul_hundred false⟩

theorem percentOf_of_neg {days targetDays : Int} (h : days < 0) : percentOf days targetDays = 0 := by
  have hbits := nearestBits_le days.natAbs targetDays.toNat
  unfold percentOf floatOfRatio
  rw [decide_eq_true h, nearest]
  rcases hbits.lt_or_eq with hlt | heq
  · obtain ⟨num, den, -, -, hmul⟩ := exists_mul_hundred_eq hlt true
    rw [hmul, nearest, clampPercent_signed_true (nearestBits_le num den)]
  · rw [heq, infinite_mul_hundred, clampPercent_signed_true le_rfl]

/-- The share of a loan does not shrink while it is held. -/
theorem percentOf_mono {days days' targetDays : Int} (htarget : 0 < targetDays)
    (h : days ≤ days') : percentOf days targetDays ≤ percentOf days' targetDays := by
  rcases lt_or_ge days 0 with hneg | hpos
  · rw [percentOf_of_neg hneg]
    exact (clampPercent_mem _).1
  · have hden : targetDays.toNat ≠ 0 := by omega
    have hratio : ((days.natAbs : Nat) : ℚ) / targetDays.toNat ≤
        (days'.natAbs : Nat) / targetDays.toNat :=
      div_le_div_of_nonneg_right (Nat.cast_le.2 (by omega)) (Nat.cast_nonneg _)
    obtain ⟨b, b', hb, hb', hmul, hmul'⟩ :=
      exists_percent_bits (nearestBits_mono hden hden hratio) (nearestBits_le _ _)
    have hnot : ¬ days < 0 := by omega
    have hnot' : ¬ days' < 0 := by omega
    unfold percentOf floatOfRatio
    rw [decide_eq_false hnot, decide_eq_false hnot', nearest, nearest, hmul, hmul',
      clampPercent_signed (hb.trans hb'), clampPercent_signed hb',
      signed_le_signed_iff ((min_le_left _ _).trans (hb.trans hb')) ((min_le_left _ _).trans hb')]
    exact min_le_min_right _ hb

/-! ### Progress -/

/-- What a later progress of one loan may differ in from an earlier one. -/
structure Progress.Advances (p p' : Progress) : Prop where
  closed_iff : p.status = .closed ↔ p'.status = .closed
  rank_le : p'.status.rank ≤ p.status.rank
  maturity_eq : p'.maturity = p.maturity
  daysToMaturity_le : p'.daysToMaturity ≤ p.daysToMaturity
  percent_le : p.percentComplete ≤ p'.percentComplete

theorem Progress.Advances.rfl {p : Progress} (h : p.percentComplete ≤ p.percentComplete) :
    p.Advances p :=
  ⟨Iff.rfl, Nat.le_refl _, Eq.refl _, Int.le_refl _, h⟩

section

variable {start : Date} {targetDays daysHeld daysHeld' window : Int} {now now' : Moment}
  {p p' : Progress} {closed : Bool} (hnow : now.reading ≤ now'.reading)
include hnow

theorem advances_progress (hdays : daysHeld ≤ daysHeld')
    (h : progress closed start targetDays daysHeld now window = .ok p)
    (h' : progress closed start targetDays daysHeld' now' window = .ok p') : p.Advances p' := by
  unfold progress at h h'
  by_cases hclosed : closed = true
  · rw [if_pos hclosed] at h h'
    obtain rfl := Except.ok.inj h
    obtain rfl := Except.ok.inj h'
    exact .rfl (by decide +kernel)
  · rw [if_neg hclosed] at h h'
    by_cases htarget : 0 < targetDays
    · rw [if_pos htarget] at h h'
      obtain ⟨maturity, hmaturity, h⟩ := bind_eq_ok_iff.1 h
      obtain ⟨past, hpast, h⟩ := bind_eq_ok_iff.1 h
      obtain ⟨maturity', hmaturity', h'⟩ := bind_eq_ok_iff.1 h'
      obtain ⟨past', hpast', h'⟩ := bind_eq_ok_iff.1 h'
      obtain rfl := Except.ok.inj h
      obtain rfl := Except.ok.inj h'
      obtain rfl := ok_unique hmaturity hmaturity'
      have hleft : -past' ≤ -past := neg_le_neg (wholeDays_mono hnow hpast hpast')
      refine ⟨?_, LoanStatus.rank_ofDaysLeft_mono window hleft, Eq.refl _, hleft,
        percentOf_mono htarget hdays⟩
      exact iff_of_false (LoanStatus.ofDaysLeft_ne_closed _ _) (LoanStatus.ofDaysLeft_ne_closed _ _)
    · rw [if_neg htarget] at h h'
      obtain rfl := Except.ok.inj h
      obtain rfl := Except.ok.inj h'
      exact .rfl (by decide +kernel)

end

/-! ### Loans -/

/-- The worth of postings does not depend on the journal when that of each of them does not. -/
theorem Worth.eq_of_yields {valueOf : Posting → Journaled Fault Decimal}
    {value : Posting → Except Fault Decimal} (hvalue : ∀ p, Yields (valueOf p) (value p))
    {ps : List Posting} {s t : JournalState} {v w : Decimal} (hv : Worth valueOf ps s v)
    (hw : Worth valueOf ps t w) : v = w := by
  obtain ⟨vs, s', hvs, hv⟩ := hv
  obtain ⟨ws, t', hws, hw⟩ := hw
  have hvalues := yields_mapM hvalue ps
  have hvs' := hvalues s
  have hws' := hvalues t
  rw [hvs] at hvs'
  rw [hws] at hws'
  obtain rfl := ok_unique hvs'.symm hws'.symm
  exact ok_unique hv hw

/-- What a loan that is derived later may differ in from the same loan before. -/
structure Advances (l l' : Loan) : Prop where
  account_eq : l'.account = l.account
  currency_eq : l'.currency = l.currency
  postings_eq : l'.postings = l.postings
  start_eq : l'.start = l.start
  principal_eq : l'.principal = l.principal
  currentValue_eq : l'.currentValue = l.currentValue
  gain_eq : l'.gain = l.gain
  terms_eq : l'.interestRate = l.interestRate ∧ l'.period = l.period ∧ l'.risk = l.risk
  daysHeld_le : l.daysHeld ≤ l'.daysHeld
  progress : (progressOf l).Advances (progressOf l')

section

variable {account currency : Text} {ps : List Posting} {window : Int} {now now' : Moment}
  (hnow : now.reading ≤ now'.reading)
include hnow

theorem advances_of_ofSums {first : Posting} {postings : List Posting}
    {principal raw value : Decimal} {l l' : Loan}
    (h : ofSums account currency first postings principal raw value now window = .ok l)
    (h' : ofSums account currency first postings principal raw value now' window = .ok l') :
    l.Advances l' := by
  obtain ⟨nothing, terms, daysHeld, p, gain, hnothing, hterms, hdays, hprogress, hgain, rfl⟩ :=
    ofSums_eq_ok_iff.1 h
  obtain ⟨nothing', terms', daysHeld', p', gain', hnothing', hterms', hdays', hprogress', hgain',
    rfl⟩ := ofSums_eq_ok_iff.1 h'
  obtain rfl := ok_unique hnothing hnothing'
  obtain rfl := ok_unique hterms hterms'
  obtain rfl := ok_unique hgain hgain'
  have hle := wholeDays_mono hnow hdays hdays'
  exact ⟨rfl, rfl, rfl, rfl, rfl, rfl, rfl, ⟨rfl, rfl, rfl⟩, hle,
    advances_progress hnow hle hprogress hprogress'⟩

/-- When postings are worth what they were, two derivations from them, made one at a time, go
through the same sums and the same worth. -/
theorem advances_of_ofPostings? {valueOf : Posting → Journaled Fault Decimal}
    {value : Posting → Except Fault Decimal} (hvalue : ∀ p, Yields (valueOf p) (value p))
    {s s' t t' : JournalState} {o o' : Option Loan}
    (h : (ofPostings? account ps now valueOf currency window).run s = (.ok o, s'))
    (h' : (ofPostings? account ps now' valueOf currency window).run t = (.ok o', t')) :
    Option.Rel Advances o o' := by
  by_cases hps : ps = []
  · rw [hps] at h h'
    obtain ⟨ho, -⟩ := Prod.mk.inj (show (Except.ok none, s) = (.ok o, s') from h)
    obtain ⟨ho', -⟩ := Prod.mk.inj (show (Except.ok none, t) = (.ok o', t') from h')
    rw [← Except.ok.inj ho, ← Except.ok.inj ho']
    exact .none
  · obtain ⟨first, rest, principal, raw, total, l, hc, hprincipal, hraw, hmarked, hworth, hl, rfl⟩ :=
      exists_ofSums_of_ofPostings? hps h
    obtain ⟨first', rest', principal', raw', total', l', hc', hprincipal', hraw', hmarked', hworth',
      hl', rfl⟩ := exists_ofSums_of_ofPostings? hps h'
    rw [hc] at hc'
    obtain ⟨rfl, rfl⟩ := List.cons.inj hc'
    obtain rfl := ok_unique hprincipal hprincipal'
    obtain rfl := ok_unique hraw hraw'
    have htotal : total = total' := by
      by_cases hm : isMarkedClosed (first :: rest) = true
      · rw [hmarked hm, hmarked' hm]
      · exact (hworth (Bool.eq_false_of_not_eq_true hm)).eq_of_yields hvalue
          (hworth' (Bool.eq_false_of_not_eq_true hm))
    rw [← htotal] at hl'
    exact .some (advances_of_ofSums hnow hl hl')

/-- A loan does not go back in time: of two derivations at instants of one clock, which may come from
any two states of the journal, both give a loan or neither does, and the later loan is the earlier
one or has advanced. -/
theorem advances_of_derive? {valueOf : Posting → Journaled Fault Decimal}
    {value : Posting → Except Fault Decimal} (hvalue : ∀ p, Yields (valueOf p) (value p))
    {s s' t t' : JournalState} {o o' : Option Loan}
    (h : (derive? account ps now valueOf currency window).run s = (.ok o, s'))
    (h' : (derive? account ps now' valueOf currency window).run t = (.ok o', t')) :
    Option.Rel Advances o o' := by
  obtain ⟨-, s₁, hrun⟩ := run_derive?_eq_ok_iff.1 ⟨s', h⟩
  obtain ⟨-, t₁, hrun'⟩ := run_derive?_eq_ok_iff.1 ⟨t', h'⟩
  exact advances_of_ofPostings? hnow hvalue hrun hrun'

end

/-- A hundred lent for sixty days, of which thirty came back on the fifteenth day, when forty days
have passed and again at noon of the sixty-fifth day. -/
theorem derive?_of_partly_repaid_again :
    let lent : Posting := ⟨"Loans:Asha", .finite false 100 0, .newYear2024, .one, "", "Target:60d",
      "INR", by decide⟩
    let repaid : Posting := ⟨"Loans:Asha", .finite true 30 0, ⟨738900, by decide, by decide⟩, .one,
      "", "", "INR", by decide⟩
    let now : Moment := ⟨⟨738926, by decide, by decide⟩, 0, some 0, by decide⟩
    let later : Moment := ⟨⟨738951, by decide, by decide⟩, 43200000000, some 0, by decide⟩
    let valueOf : Posting → Journaled Fault Decimal := fun p => pure p.amount
    now.reading ≤ later.reading ∧ (∀ p, Yields (valueOf p) (.ok p.amount)) ∧
      ∃ l l' s s', (derive? "Loans:Asha" [repaid, lent] now valueOf "INR" 30).run empty =
          (.ok (some l), s) ∧
        (derive? "Loans:Asha" [repaid, lent] later valueOf "INR" 30).run empty =
          (.ok (some l'), s') ∧
        l.Advances l' ∧ (l.status, l.daysHeld, l.daysToMaturity) = (.maturing, 40, 20) ∧
        (l'.status, l'.daysHeld, l'.daysToMaturity) = (.overdue, 65, -5) := by
  intro lent repaid now later valueOf
  have hnow : now.reading ≤ later.reading :=
    (Moment.reading_le_iff (a := now) (b := later) rfl).2 (by decide +kernel)
  have hvalue (p : Posting) : Yields (valueOf p) (.ok p.amount) := yields_pure p.amount
  have hrun : ((ofPostings? "Loans:Asha" [repaid, lent] now valueOf "INR" 30).run
      empty).1.toOption.map (fun o => o.map (fun l => (l.status, l.daysHeld, l.daysToMaturity))) =
        some (some (.maturing, 40, 20)) := by
    decide +kernel
  have hrun' : ((ofPostings? "Loans:Asha" [repaid, lent] later valueOf "INR" 30).run
      empty).1.toOption.map (fun o => o.map (fun l => (l.status, l.daysHeld, l.daysToMaturity))) =
        some (some (.overdue, 65, -5)) := by
    decide +kernel
  obtain ⟨o, s₁, hrun, ho⟩ := exists_of_map_toOption hrun
  obtain ⟨o', t₁, hrun', ho'⟩ := exists_of_map_toOption hrun'
  have hplain := Text.isPlain_ofString "Loans:Asha"
  obtain ⟨s, h⟩ := run_derive?_eq_ok_iff.2
    ⟨exists_fingerprint_inputs hplain [repaid, lent] now, s₁, hrun⟩
  obtain ⟨s', h'⟩ := run_derive?_eq_ok_iff.2
    ⟨exists_fingerprint_inputs hplain [repaid, lent] later, t₁, hrun'⟩
  obtain ⟨l, rfl, hl⟩ := Option.map_eq_some_iff.1 ho
  obtain ⟨l', rfl, hl'⟩ := Option.map_eq_some_iff.1 ho'
  have hrel := advances_of_derive? hnow hvalue h h'
  cases hrel with
  | some hadvances => exact ⟨hnow, hvalue, l, l', s, s', h, h', hadvances, hl, hl'⟩

end Loan

end Appraisal
