import Appraisal.Calendar.Clock
import Appraisal.Proofs.Loan.Coherence

/-!
# Maturity by the calendar

In the last microsecond of a day the status of an open loan with a target depends on two dates alone,
that of its maturity and that of the day. The days between them are seconds that are rounded to a
double, divided, rounded again and cut off toward zero, and they are one microsecond away from a whole
number of days. They are cut off to the right number all the same: whole and half days go through both
roundings as they are, and rounding keeps the order of what lies between them.
-/

namespace Appraisal

open Binary Outcome Journaled

namespace Date

/-- A date that is so many days later is the only one. -/
theorem plusDays?_eq_some_iff {d e : Date} {n : Int} :
    d.plusDays? n = some e ↔ (e.day : Int) = d.day + n := by
  constructor
  · exact Loan.day_of_plusDays?
  · intro h
    have hpos := e.one_le_day
    have hle := e.day_le
    unfold plusDays? ofDay?
    rw [← h, dif_pos (by omega)]
    exact congrArg some (Date.ext (Int.toNat_natCast e.day))

end Date

namespace Span

def microsPerHalf : Nat := 43200 * microsPerSecond

def cut (micros : Int) : Except NotIntegral Int :=
  truncateInt (scale (seconds micros) 1 secondsPerDay)

variable {a : Int}

theorem cut_of_halves {k : Nat} (hk : k < 2 ^ 30) (ha : a.natAbs = k * microsPerHalf) :
    cut a = .ok (withSign (a < 0) ↑(k / 2)) := by
  have hseconds : a.natAbs = k * 43200 * microsPerSecond := by
    rw [ha, microsPerHalf, Nat.mul_assoc]
  have hdays : 2 * (k * 43200) = k * secondsPerDay := by
    unfold secondsPerDay
    omega
  exact truncateInt_scale_of_halves (by decide) (by decide) hseconds hdays (by omega) (by omega)

theorem exists_cut {k : Nat} (hk : k < 2 ^ 30) (ha : a.natAbs ≤ k * microsPerHalf) :
    ∃ i, cut a = .ok i := by
  have hbound := @cut_of_halves (k * microsPerHalf : Nat) k hk (Int.natAbs_natCast _)
  exact exists_truncateInt_scale (by decide) (by decide) hbound ha

/-- Of a number of days and at most half a day more the number is left. -/
theorem cut_of_mem {n : Nat} (hn : n < 2 ^ 28) (hlow : n * microsPerDay ≤ a.natAbs)
    (hhigh : a.natAbs ≤ n * microsPerDay + microsPerHalf) : cut a = .ok (withSign (a < 0) n) := by
  have hdays : 2 * n * microsPerHalf = n * microsPerDay := by
    unfold microsPerHalf microsPerDay secondsPerDay microsPerSecond
    omega
  have hlower := @cut_of_halves (2 * n * microsPerHalf : Nat) (2 * n) (by omega)
    (Int.natAbs_natCast _)
  have hupper := @cut_of_halves ((2 * n + 1) * microsPerHalf : Nat) (2 * n + 1) (by omega)
    (Int.natAbs_natCast _)
  have hhalf : a.natAbs ≤ (2 * n + 1) * microsPerHalf := by
    rw [Nat.add_mul, hdays]
    omega
  obtain ⟨i, hi⟩ := exists_cut (by omega) hhalf
  have hge := natAbs_truncateInt_scale_mono (by decide) hlower hi (by decide)
    (by rw [Int.natAbs_natCast, hdays]; exact hlow)
  have hle := natAbs_truncateInt_scale_mono (by decide) hi hupper (by decide)
    (by rw [Int.natAbs_natCast]; exact hhalf)
  rw [natAbs_withSign] at hge hle
  obtain ⟨hnonneg, hnonpos⟩ := truncateInt_scale_sign (by decide) hi
  rw [hi]
  unfold withSign
  congr 1
  by_cases ha : a < 0
  · have := hnonpos ha
    rw [if_pos (by simpa using ha)]
    omega
  · have := hnonneg (by omega)
    rw [if_neg (by simpa using ha)]
    omega

end Span

namespace Loan

/-! ### Days at the end of a day -/

theorem wholeDays_eq_ok {start : Date} {now : Moment} {i : Int}
    (h : Span.cut (Moment.microsSince start now) = .ok i) : wholeDays start now = .ok i :=
  mapError_eq_ok_iff.2 h

/-- How many days a date is past when a day ends: none on the day itself, at least one after it, and
before it one less than the calendar counts, with a minus sign. -/
theorem exists_wholeDays_endOfDay (d : Date) (t : Moment) :
    ∃ past, wholeDays d t.endOfDay = .ok past ∧
      (d.day < t.date.day → 1 ≤ past) ∧ (d.day = t.date.day → past = 0) ∧
      (t.date.day < d.day → past = 1 - t.date.daysTo d) := by
  have hd := d.day_le
  have ht := t.date.day_le
  have hlast : lastDay = 3652059 := rfl
  have hday : microsPerDay = 86400000000 := rfl
  have hhalf : Span.microsPerHalf = 43200000000 := rfl
  have hmicros : Moment.microsSince d t.endOfDay =
      ((t.date.day : Int) - d.day) * 86400000000 + 86399999999 := rfl
  rcases lt_trichotomy d.day t.date.day with hlt | heq | hgt
  · -- one whole day is less, and is cut off to one
    obtain ⟨i, hi⟩ := @Span.exists_cut (Moment.microsSince d t.endOfDay)
      (2 * (t.date.day - d.day + 1)) (by omega) (by rw [hmicros, hhalf]; omega)
    have hone := @Span.cut_of_halves (2 * Span.microsPerHalf : Nat) 2 (by omega) rfl
    have hle := truncateInt_scale_mono (by decide) hone hi (by decide) (by rw [hmicros, hhalf]; omega)
    exact ⟨i, wholeDays_eq_ok hi, fun _ => hle, by omega, by omega⟩
  · -- this ratio alone is above its half day, and it is only one
    have hzero : Span.cut 86399999999 = .ok 0 := by decide +kernel
    refine ⟨0, wholeDays_eq_ok ?_, by omega, fun _ => rfl, by omega⟩
    rw [hmicros, heq, sub_self, zero_mul, zero_add]
    exact hzero
  · -- one microsecond above a number of days, on the other side of zero
    have hcut := @Span.cut_of_mem (Moment.microsSince d t.endOfDay) (d.day - t.date.day - 1)
      (by omega) (by rw [hmicros, hday]; omega) (by rw [hmicros, hday, hhalf]; omega)
    refine ⟨_, wholeDays_eq_ok hcut, by omega, by omega, fun _ => ?_⟩
    rw [withSign, if_pos (by rw [hmicros]; simp; omega), Date.daysTo]
    omega

/-- The start of a loan is some days ago when a day ends, or it is yet to come. -/
theorem exists_wholeDays (start : Date) (t : Moment) :
    ∃ days, wholeDays start t.endOfDay = .ok days := by
  obtain ⟨days, hdays, -⟩ := exists_wholeDays_endOfDay start t
  exact ⟨days, hdays⟩

/-! ### Maturity -/

variable {start maturity : Date} {targetDays daysHeld window : Int} {p : Progress} {t : Moment}

/-- A target that leads to a date is a span of the calendar. -/
theorem maturityOf_of_plusDays? (h : start.plusDays? targetDays = some maturity) :
    maturityOf start targetDays = .ok maturity := by
  have hday := Date.plusDays?_eq_some_iff.1 h
  have hstart := start.day_le
  have hmaturity := maturity.day_le
  have hlast : lastDay = 3652059 := rfl
  have hspan : Span.ofDays (.whole targetDays) = .ok (targetDays * microsPerDay) := by
    unfold Span.ofDays Span.ofUnits Span.checked
    simp only [Int.mul_fdiv_cancel _ (by decide : (microsPerDay : Int) ≠ 0)]
    rw [if_neg (by simp; omega), if_neg (by simp; omega)]
  unfold maturityOf
  rw [hspan, h]
  rfl

/-- How far an open loan with a target has come when a day ends, by the calendar. -/
structure Progress.FollowsCalendar (maturity today : Date) (window : Int) (p : Progress) : Prop where
  maturity_eq : p.maturity = some maturity
  overdue_iff : p.status = .overdue ↔ maturity.day < today.day
  maturing_iff : p.status = .maturing ↔
    today.day ≤ maturity.day ∧ today.daysTo maturity ≤ window + 1
  active_iff : p.status = .active ↔ window + 1 < today.daysTo maturity
  days_today : maturity = today → p.daysToMaturity = 0
  days_later : today.day < maturity.day → p.daysToMaturity = today.daysTo maturity - 1

theorem followsCalendar_of_coherent
    (hp : p.Coherent start targetDays daysHeld t.endOfDay window) (hopen : p.status ≠ .closed)
    (htarget : 0 < targetDays) (hwindow : 0 ≤ window) :
    ∃ maturity, start.plusDays? targetDays = some maturity ∧
      p.FollowsCalendar maturity t.date window := by
  obtain ⟨maturity, hmaturity⟩ := Option.isSome_iff_exists.1
    (hp.maturity_isSome_iff.2 ⟨hopen, htarget⟩)
  obtain ⟨hday, hwhole⟩ := hp.maturity_eq maturity hmaturity
  obtain ⟨past, hpast, hbefore, hsame, hlater⟩ := exists_wholeDays_endOfDay maturity t
  have hdays : past = -p.daysToMaturity := ok_unique hpast hwhole
  obtain ⟨hoverdue, hmaturing, hactive, -⟩ := hp.targeted hopen htarget
  have hto : t.date.daysTo maturity = (maturity.day : Int) - t.date.day := rfl
  refine ⟨maturity, Date.plusDays?_eq_some_iff.2 hday, hmaturity, ?_, ?_, ?_, ?_, ?_⟩
  · rw [hoverdue]
    omega
  · rw [hmaturing]
    omega
  · rw [hactive]
    omega
  · rintro rfl
    have := hsame rfl
    omega
  · intro h
    have := hlater h
    omega

/-- A loan that is open at the end of the day on a clock, and has a target, is overdue, maturing or
active by the calendar: it is overdue once the date of its maturity is past, and active as long as this
date is further off than the window and one day more. Whenever there is such a date the days can be
counted. -/
theorem status_follows_calendar {c : Clock} {now : Moment} (hnow : c.endOfToday = .ok now)
    (hwindow : 0 ≤ window) :
    (∀ (start maturity : Date) (targetDays : Int), 0 < targetDays →
      start.plusDays? targetDays = some maturity →
      ∃ daysHeld p, wholeDays start now = .ok daysHeld ∧
        progress false start targetDays daysHeld now window = .ok p ∧
        p.FollowsCalendar maturity now.date window) ∧
    ∀ (account currency : Text) (ps : List Posting)
      (valueOf : Posting → Journaled Fault Decimal) (s s' : JournalState) (l : Loan),
      (derive? account ps now valueOf currency window).run s = (.ok (some l), s') →
      l.status ≠ .closed →
      ∃ raw terms, Coherent account currency ps now window valueOf s raw terms l ∧
        (0 < terms.targetDays →
          ∃ maturity, l.start.plusDays? terms.targetDays = some maturity ∧
            (progressOf l).FollowsCalendar maturity now.date window) := by
  obtain ⟨t, -, rfl⟩ : ∃ t, c.now = .ok t ∧ t.endOfDay = now := by
    unfold Clock.endOfToday at hnow
    cases hc : c.now with
    | error e =>
        rw [hc] at hnow
        cases hnow
    | ok t =>
        rw [hc] at hnow
        exact ⟨t, rfl, Except.ok.inj hnow⟩
  constructor
  · intro start maturity targetDays htarget hmaturity
    obtain ⟨daysHeld, hheld⟩ := exists_wholeDays start t
    obtain ⟨past, hpast, -⟩ := exists_wholeDays_endOfDay maturity t
    have hprogress : progress false start targetDays daysHeld t.endOfDay window =
        .ok ⟨.ofDaysLeft window (-past), some maturity, -past, percentOf daysHeld targetDays⟩ := by
      unfold progress
      rw [if_neg Bool.false_ne_true, if_pos htarget, maturityOf_of_plusDays? hmaturity, ok_bind,
        hpast]
      rfl
    obtain ⟨hcoherent, hopen⟩ := coherent_of_target htarget hprogress
    obtain ⟨maturity', hmaturity', hfollows⟩ :=
      followsCalendar_of_coherent hcoherent hopen htarget hwindow
    obtain rfl := Option.some.inj (hmaturity.symm.trans hmaturity')
    exact ⟨daysHeld, _, hheld, hprogress, hfollows⟩
  · intro account currency ps valueOf s s' l hrun hopen
    obtain ⟨raw, terms, hcoherent⟩ := exists_coherent_of_run_derive? hrun
    exact ⟨raw, terms, hcoherent, fun htarget =>
      followsCalendar_of_coherent hcoherent.progress hopen htarget hwindow⟩

/-- A hundred lent for sixty days, when a day ends that is thirty-one days before maturity. This is the
first day on which the loan counts as maturing within thirty days. -/
theorem maturing_from_window :
    let lent : Posting := ⟨"Loans:Asha", .finite false 100 0, .newYear2024, .one, "", "Target:60d",
      "INR", by decide⟩
    let today : Date := ⟨738915, by decide, by decide⟩
    let clock : Clock := .atMoment ⟨today, 0, some 0, by decide⟩
    let now : Moment := ⟨today, microsPerDay - 1, some 0, by decide⟩
    let valueOf : Posting → Journaled Fault Decimal := fun p => pure p.amount
    clock.endOfToday = .ok now ∧
      ∃ l s', (derive? "Loans:Asha" [lent] now valueOf "INR" 30).run empty = (.ok (some l), s') ∧
        l.status = .maturing ∧
        ∃ maturity, l.start.plusDays? 60 = some maturity ∧ today.daysTo maturity = 31 ∧
          (progressOf l).FollowsCalendar maturity today 30 ∧ l.daysToMaturity = 30 := by
  intro lent today clock now valueOf
  have hnow : clock.endOfToday = .ok now := rfl
  have hstatus : ((ofPostings? "Loans:Asha" [lent] now valueOf "INR" 30).run
      empty).1.toOption.map (fun o => o.map (fun l => (l.status, l.start.day))) =
        some (some (.maturing, 738886)) := by
    decide +kernel
  have hterms : (Note.Terms.ofNote lent.transactionNote).toOption.map Note.Terms.targetDays =
      some 60 := by
    decide +kernel
  have hfingerprint := exists_fingerprint_inputs (Text.isPlain_ofString "Loans:Asha") [lent] now
  obtain ⟨o, s₁, hrun, ho⟩ := exists_of_map_toOption hstatus
  obtain ⟨s', hderive⟩ := run_derive?_eq_ok_iff.2 ⟨hfingerprint, s₁, hrun⟩
  obtain ⟨l, rfl, hl⟩ := Option.map_eq_some_iff.1 ho
  obtain ⟨hmaturing, hstart⟩ := Prod.mk.inj hl
  obtain ⟨-, hfollows⟩ := status_follows_calendar hnow (by decide : (0 : Int) ≤ 30)
  obtain ⟨raw, terms, hcoherent, hcalendar⟩ := hfollows _ _ _ _ _ _ _ hderive (by
    rw [hmaturing]
    decide)
  obtain ⟨first, hfirst, hread⟩ := hcoherent.terms_eq
  have hone : l.postings = [lent] := List.perm_singleton.1 hcoherent.byDate.perm
  rw [hone] at hfirst
  obtain rfl := Option.some.inj hfirst
  rw [hread] at hterms
  obtain htarget : terms.targetDays = 60 := Option.some.inj hterms
  rw [htarget] at hcalendar
  obtain ⟨maturity, hmaturity, hcalendar⟩ := hcalendar (by decide)
  have hday := Date.plusDays?_eq_some_iff.1 hmaturity
  rw [hstart] at hday
  have hdays : today.daysTo maturity = 31 := by
    show (maturity.day : Int) - 738915 = 31
    omega
  refine ⟨hnow, l, s', hderive, hmaturing, maturity, hmaturity, hdays, hcalendar, ?_⟩
  have hlater := hcalendar.days_later (show 738915 < maturity.day by omega)
  rw [hdays] at hlater
  exact hlater

end Loan

end Appraisal
