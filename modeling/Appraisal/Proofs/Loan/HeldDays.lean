import Appraisal.Proofs.Loan.Maturity
import Appraisal.Proofs.Number.Whole

/-!
# Held days and the calendar

The days from a date to an instant are whole days and a part of one. Their integer part counts the days
of the calendar, unless the end of the day is so near that the seconds up to it are rounded to the
whole number at which the next day starts. The second rounding, that of the quotient, never adds to
this: the double below such a number of seconds is too far from it. Doubles lie close enough for every
microsecond of the first 198841 days.
-/

namespace Appraisal

open Binary Outcome Journaled

def Moment.secondsToEnd (start : Date) (t : Moment) : Nat :=
  secondsPerDay * (t.date.day - start.day + 1)

def Moment.secondsLeft (t : Moment) : ℚ := (microsPerDay - t.micros : Nat) / microsPerSecond

/-- The number of days that counts those of the calendar from a date to the day of an instant, or one
more, and then in the last microseconds only. -/
structure Moment.CountsDays (start : Date) (t : Moment) (days : Int) : Prop where
  nearby : days = start.daysTo t.date ∨ days = start.daysTo t.date + 1
  over_iff : days = start.daysTo t.date + 1 ↔ t.secondsLeft ≤ halfPlaceBelow (secondsToEnd start t)
  exact_of_near : start.daysTo t.date < 198841 → days = start.daysTo t.date
  exact_of_early : t.micros + 30 < microsPerDay → days = start.daysTo t.date
  over_of_last : 198841 ≤ start.daysTo t.date → t.micros + 1 = microsPerDay →
    days = start.daysTo t.date + 1

namespace Moment

variable {start : Date} {t : Moment}

/-! ### How far doubles lie apart at the end of a day -/

theorem secondsToEnd_pos (start : Date) (t : Moment) : 0 < secondsToEnd start t :=
  Nat.mul_pos (by decide) (Nat.succ_pos _)

theorem days_lt (start : Date) (t : Moment) : t.date.day - start.day < 2 ^ 22 := by
  have ht := t.date.day_le
  have hlast : lastDay = 3652059 := rfl
  omega

theorem secondsPerDay_mul_lt {n : Nat} (hn : n ≤ 2 ^ 22) : secondsPerDay * n < 2 ^ 39 := by
  unfold secondsPerDay
  omega

theorem secondsLeft_le_iff {n : Nat} :
    t.secondsLeft ≤ n / microsPerSecond ↔ microsPerDay ≤ t.micros + n := by
  have hmicros : (0 : ℚ) < microsPerSecond := by norm_num [microsPerSecond]
  rw [secondsLeft, div_le_div_iff_of_pos_right hmicros, Nat.cast_le]
  omega

theorem le_secondsLeft_iff {n : Nat} :
    n / microsPerSecond ≤ t.secondsLeft ↔ t.micros + n ≤ microsPerDay := by
  have hmicros : (0 : ℚ) < microsPerSecond := by norm_num [microsPerSecond]
  have hlt : t.micros < microsPerDay := t.micros_lt
  rw [secondsLeft, div_le_div_iff_of_pos_right hmicros, Nat.cast_le]
  omega

/-- The double below a whole number of days in seconds is too far from it to become that number of days
when it is divided. -/
theorem sub_div_lt {n : Nat} (hn : 0 < n) :
    (secondsPerDay * n - 2 * halfPlaceBelow (secondsPerDay * n)) / secondsPerDay <
      n - halfPlaceBelow n := by
  have hpower : Nat.clog 2 n + 16 ≤ Nat.clog 2 (secondsPerDay * n) := by
    obtain ⟨c, hc⟩ : ∃ c, Nat.clog 2 n = c := ⟨_, rfl⟩
    rw [hc]
    refine (Nat.lt_clog_iff_pow_lt one_lt_two).2 ?_
    have hlow := (two_zpow_clog_lt hn).1
    rw [hc] at hlow
    have hcast : (2 : ℚ) ^ (c + 15) < secondsPerDay * n := by
      calc (2 : ℚ) ^ (c + 15) = 2 ^ 16 * 2 ^ ((c : Int) - 1) := by
            rw [zpow_sub_one₀ (by norm_num), zpow_natCast, pow_add]
            ring
        _ < 2 ^ 16 * n := mul_lt_mul_of_pos_left hlow (by norm_num)
        _ ≤ secondsPerDay * n :=
            mul_le_mul_of_nonneg_right (by norm_num [secondsPerDay]) (Nat.cast_nonneg n)
    exact_mod_cast hcast
  have hgap : (secondsPerDay : ℚ) * halfPlaceBelow n < 2 * halfPlaceBelow (secondsPerDay * n) := by
    calc (secondsPerDay : ℚ) * halfPlaceBelow n < 2 ^ 17 * halfPlaceBelow n :=
          mul_lt_mul_of_pos_right (by norm_num [secondsPerDay]) (halfPlaceBelow_pos n)
      _ = 2 * 2 ^ ((Nat.clog 2 n : Int) + 16 - 54) := by
          rw [halfPlaceBelow, show (Nat.clog 2 n : Int) + 16 - 54 = Nat.clog 2 n - 54 + (16 : Nat) by
            omega, zpow_add₀ (by norm_num), zpow_natCast]
          ring
      _ ≤ 2 * halfPlaceBelow (secondsPerDay * n) := by
          rw [halfPlaceBelow]
          exact mul_le_mul_of_nonneg_left (zpow_le_zpow_right₀ (by norm_num) (by omega)) (by norm_num)
  rw [div_lt_iff₀ (by norm_num [secondsPerDay])]
  linarith

theorem secondsLeft_mem (t : Moment) : 0 < t.secondsLeft ∧ t.secondsLeft ≤ secondsPerDay := by
  have hmicros : (0 : ℚ) < microsPerSecond := by norm_num [microsPerSecond]
  have hlt : t.micros < microsPerDay := t.micros_lt
  have hle : microsPerDay - t.micros ≤ secondsPerDay * microsPerSecond := Nat.sub_le _ _
  refine ⟨div_pos (Nat.cast_pos.2 (by omega)) hmicros, ?_⟩
  rw [secondsLeft, div_le_iff₀ hmicros]
  exact_mod_cast hle

/-! ### Both roundings -/

section

variable {σ left : ℚ} {N n : Nat} (hN : N < 2 ^ 22)
  (hseconds : ∀ k : Nat, 0 < k → k < 2 ^ 52 →
    (k ≤ σ ↔ k - halfPlaceBelow k ≤ (secondsPerDay * (N + 1) : Nat) - left))
  (hdays : ∀ k : Nat, 0 < k → k < 2 ^ 52 → (k ≤ n ↔ k - halfPlaceBelow k ≤ σ / secondsPerDay))
include hN hseconds hdays

/-- The days that are full are reached. -/
theorem le_of_roundings (hleft : left ≤ secondsPerDay) : N ≤ n := by
  rcases Nat.eq_zero_or_pos N with rfl | hpos
  · exact Nat.zero_le n
  · have hreached : ((secondsPerDay * N : Nat) : ℚ) ≤ σ := by
      have hsmall := secondsPerDay_mul_lt hN.le
      rw [hseconds _ (Nat.mul_pos (by decide) hpos) (hsmall.trans (by norm_num))]
      have hhalf := halfPlaceBelow_pos (secondsPerDay * N)
      push_cast
      linarith
    have hquotient : (N : ℚ) ≤ σ / secondsPerDay := by
      rw [le_div_iff₀ (by norm_num [secondsPerDay]), mul_comm]
      exact_mod_cast hreached
    rw [hdays N hpos (by omega)]
    have hhalf := halfPlaceBelow_pos N
    linarith

omit hdays in
/-- The seconds after the end of the day are not reached. -/
theorem div_lt_of_roundings (hleft : 0 < left) : σ / secondsPerDay < N + 1 + 1 / 2 := by
  have hday : secondsPerDay = 86400 := rfl
  have hsmall : secondsPerDay * (N + 1) < 2 ^ 39 := secondsPerDay_mul_lt hN
  have hless : σ < (secondsPerDay * (N + 1) + 1 : Nat) := by
    rw [← not_le, hseconds _ (Nat.succ_pos _) (by omega), not_le]
    have hhalf : halfPlaceBelow (secondsPerDay * (N + 1) + 1) ≤ 1 :=
      (halfPlaceBelow_le (by omega : _ ≤ 2 ^ 54)).trans_eq (by norm_num)
    push_cast
    linarith
  rw [div_lt_iff₀ (by norm_num [secondsPerDay])]
  rw [hday] at hless ⊢
  push_cast at hless ⊢
  linarith

theorem le_succ_of_roundings (hleft : 0 < left) : n ≤ N + 1 := by
  have hquotient := div_lt_of_roundings hN hseconds hleft
  have hhalf : halfPlaceBelow (N + 2) ≤ 1 / 2 :=
    (halfPlaceBelow_le (by omega : _ ≤ 2 ^ 53)).trans_eq (by norm_num)
  refine Nat.lt_succ_iff.1 (not_le.1 fun hle => ?_)
  rw [hdays _ (Nat.succ_pos _) (by omega)] at hle
  push_cast at hle
  linarith

/-- The next day is reached together with the seconds at which it starts. -/
theorem succ_le_iff_of_roundings
    (hgap : σ < (secondsPerDay * (N + 1) : Nat) → σ ≤ (secondsPerDay * (N + 1) : Nat) -
      2 * halfPlaceBelow (secondsPerDay * (N + 1))) :
    N + 1 ≤ n ↔ left ≤ halfPlaceBelow (secondsPerDay * (N + 1)) := by
  have hsmall : secondsPerDay * (N + 1) < 2 ^ 39 := secondsPerDay_mul_lt hN
  have hreach : ((secondsPerDay * (N + 1) : Nat) : ℚ) ≤ σ ↔
      left ≤ halfPlaceBelow (secondsPerDay * (N + 1)) := by
    rw [hseconds _ (Nat.mul_pos (by decide) N.add_one_pos) (by omega), sub_le_sub_iff_left]
  rw [← hreach, hdays _ (Nat.succ_pos N) (by omega)]
  have hpos : (0 : ℚ) < secondsPerDay := by norm_num [secondsPerDay]
  constructor
  · intro hle
    by_contra hless
    have hbelow := (div_le_div_iff_of_pos_right hpos).2 (hgap (not_le.1 hless))
    have hfar := sub_div_lt (Nat.succ_pos N)
    push_cast at hle hbelow hfar
    linarith
  · intro hle
    have hhalf := halfPlaceBelow_pos (N + 1)
    have hquotient : ((N + 1 : Nat) : ℚ) ≤ σ / secondsPerDay := by
      rw [le_div_iff₀ hpos, mul_comm]
      exact_mod_cast hle
    linarith

end

variable (h : start.day ≤ t.date.day)
include h

theorem microsSince_nonneg : ¬ microsSince start t < 0 := by
  have hday : (start.day : Int) ≤ t.date.day := by exact_mod_cast h
  have hdays : 0 ≤ start.daysTo t.date * microsPerDay :=
    mul_nonneg (sub_nonneg.2 hday) (Int.natCast_nonneg _)
  unfold microsSince
  omega

theorem natAbs_microsSince_div : ((microsSince start t).natAbs : ℚ) / microsPerSecond =
    secondsToEnd start t - t.secondsLeft := by
  have hmicros : (microsPerSecond : ℚ) ≠ 0 := by norm_num [microsPerSecond]
  have hcast : ((microsSince start t).natAbs : ℚ) =
      (t.date.day - start.day) * (secondsPerDay * microsPerSecond) + t.micros := by
    have hint : ((microsSince start t).natAbs : Int) =
        (t.date.day - start.day) * (secondsPerDay * microsPerSecond) + t.micros :=
      Int.natAbs_of_nonneg (not_lt.1 (microsSince_nonneg h))
    exact_mod_cast congrArg (Int.cast : Int → ℚ) hint
  rw [hcast, secondsToEnd, secondsLeft, microsPerDay,
    Nat.cast_sub (show t.micros ≤ secondsPerDay * microsPerSecond from t.micros_lt.le)]
  push_cast [Nat.cast_sub h]
  field_simp
  ring

/-- The integer part of the days is that of the calendar or one more, which it is when the seconds left
are at most half of the distance to the double below the end of the day. -/
theorem exists_truncateInt_heldDays : ∃ n : Nat,
    truncateInt (Formula.Context.heldDays start t) = .ok n ∧
      t.date.day - start.day ≤ n ∧ n ≤ t.date.day - start.day + 1 ∧
      (t.date.day - start.day + 1 ≤ n ↔
        t.secondsLeft ≤ halfPlaceBelow (secondsToEnd start t)) := by
  have hratio := natAbs_microsSince_div h
  have hend : secondsToEnd start t < 2 ^ 39 := secondsPerDay_mul_lt (days_lt start t)
  have hend' : (secondsToEnd start t : ℚ) < 2 ^ 39 := by exact_mod_cast hend
  obtain ⟨hleft, hleft'⟩ := t.secondsLeft_mem
  have hden : microsPerSecond ≠ 0 := by decide
  have hfar : (2 : ℚ) ^ 39 ≤ 2 ^ (1022 : Int) :=
    zpow_le_zpow_right₀ one_le_two (by decide : (39 : Int) ≤ 1022)
  have hsmall : ((microsSince start t).natAbs : ℚ) / microsPerSecond < 2 ^ (1022 : Int) := by
    rw [hratio]
    exact lt_of_lt_of_le (by linarith) hfar
  obtain ⟨m, place, hspells, hx⟩ := exists_spells (nearestBits_lt_infiniteBits hden hsmall)
  have hnegative : decide (microsSince start t < 0) = false :=
    decide_eq_false (microsSince_nonneg h)
  have hspan : ofFloat (Span.seconds (microsSince start t)) =
      .finite false m (place + leastExponent) := by
    rw [Span.seconds, floatOfRatio, hnegative]
    exact hx false
  obtain ⟨num, den, hden', hquotient, hscale⟩ :=
    exists_scale_eq hspan 1 (by decide : secondsPerDay ≠ 0)
  rw [Nat.cast_one, mul_one] at hquotient
  have hseconds (k : Nat) (hk : 0 < k) (hk' : k < 2 ^ 52) :
      (k : ℚ) ≤ m * 2 ^ (place + leastExponent) ↔
        k - halfPlaceBelow k ≤ secondsToEnd start t - t.secondsLeft := by
    have hreach := le_magnitude_nearest_iff hk hk' false hden hsmall
    rwa [nearest, hx, hratio] at hreach
  have hN := days_lt start t
  have hsmall' : (num : ℚ) / den < 2 ^ (1022 : Int) := by
    have hless := div_lt_of_roundings hN hseconds hleft
    have hcast : ((t.date.day - start.day : Nat) : ℚ) < 2 ^ 22 := by exact_mod_cast hN
    rw [hquotient]
    exact lt_of_lt_of_le (by linarith) hfar
  refine ⟨⌊(ofFloat (nearest false num den)).magnitude⌋₊, ?_, ?_⟩
  · rw [Formula.Context.heldDays, hscale,
      truncateInt_nearest_eq (nearestBits_lt_infiniteBits hden' hsmall')]
    rfl
  · have hdays (k : Nat) (hk : 0 < k) (hk' : k < 2 ^ 52) :=
      le_floor_nearest_iff hk hk' false hden' hsmall'
    rw [hquotient] at hdays
    exact ⟨le_of_roundings hN hseconds hdays hleft',
      le_succ_of_roundings hN hseconds hdays hleft,
      succ_le_iff_of_roundings hN hseconds hdays
        (mul_two_zpow_le_sub (secondsToEnd_pos start t) (by omega) hspells.lt)⟩

theorem exists_countsDays : ∃ days,
    truncateInt (Formula.Context.heldDays start t) = .ok days ∧ CountsDays start t days := by
  obtain ⟨n, hn, hle, hle', hover⟩ := exists_truncateInt_heldDays h
  have hdaysTo : start.daysTo t.date = (t.date.day - start.day : Nat) := (Nat.cast_sub h).symm
  have hexact (hless : ¬ t.secondsLeft ≤ halfPlaceBelow (secondsToEnd start t)) :
      (n : Int) = start.daysTo t.date := by
    rw [← hover] at hless
    omega
  refine ⟨n, hn, by omega, ?_, fun hnear => hexact (not_le.2 ?_),
    fun hearly => hexact (not_le.2 ?_), fun hfar hlast => ?_⟩
  · rw [← hover]
    omega
  · have hplace : halfPlaceBelow (secondsToEnd start t) ≤ 2 ^ ((34 : Nat) - 54 : Int) := by
      refine halfPlaceBelow_le ?_
      unfold secondsToEnd secondsPerDay
      omega
    have hleft : ((1 : Nat) : ℚ) / microsPerSecond ≤ t.secondsLeft :=
      le_secondsLeft_iff.2 t.micros_lt
    refine (hplace.trans_lt ?_).trans_le hleft
    norm_num [microsPerSecond]
  · have hplace : halfPlaceBelow (secondsToEnd start t) ≤ 2 ^ ((39 : Nat) - 54 : Int) :=
      halfPlaceBelow_le (secondsPerDay_mul_lt (days_lt start t)).le
    have hleft : ((31 : Nat) : ℚ) / microsPerSecond ≤ t.secondsLeft := le_secondsLeft_iff.2 hearly
    refine (hplace.trans_lt ?_).trans_le hleft
    norm_num [microsPerSecond]
  · have hplace : 2 ^ ((34 : Nat) - 53 : Int) ≤ halfPlaceBelow (secondsToEnd start t) := by
      refine le_halfPlaceBelow ?_
      unfold secondsToEnd secondsPerDay
      omega
    have hleft : t.secondsLeft ≤ ((1 : Nat) : ℚ) / microsPerSecond :=
      secondsLeft_le_iff.2 hlast.ge
    have hreach := hover.2 ((hleft.trans (by norm_num [microsPerSecond])).trans hplace)
    omega

end Moment

namespace Loan

theorem wholeDays_eq_ok_iff {start : Date} {now : Moment} {days : Int} :
    wholeDays start now = .ok days ↔
      truncateInt (Formula.Context.heldDays start now) = .ok days :=
  mapError_eq_ok_iff

/-- What a loan of postings shows is shown by the loan that is derived from them. -/
theorem exists_derive?_of_map {account currency : Text} {ps : List Posting} {now : Moment}
    {window : Int} {valueOf : Posting → Journaled Fault Decimal} {s : JournalState} {β : Type}
    {f : Loan → β} {b : β} (haccount : account.IsPlain)
    (h : ((ofPostings? account ps now valueOf currency window).run s).1.toOption.map
      (fun o => o.map f) = some (some b)) :
    ∃ l s', (derive? account ps now valueOf currency window).run s = (.ok (some l), s') ∧
      f l = b := by
  obtain ⟨o, s₁, hrun, ho⟩ := exists_of_map_toOption h
  obtain ⟨l, rfl, hl⟩ := Option.map_eq_some_iff.1 ho
  obtain ⟨s', hderive⟩ := run_derive?_eq_ok_iff.2
    ⟨exists_fingerprint_inputs haccount ps now, s₁, hrun⟩
  exact ⟨l, s', hderive, hl⟩

/-- The integer part of the held days counts the days of the calendar, up to the last microseconds of a
day that is far off. It is what a loan reports as its days held, and as its days overdue once the date
of its maturity is past. -/
theorem heldDays_count_calendar (now : Moment) :
    (∀ start : Date, start.day ≤ now.date.day → ∃ days,
      truncateInt (Formula.Context.heldDays start now) = .ok days ∧ now.CountsDays start days) ∧
    ∀ (account currency : Text) (ps : List Posting) (window : Int)
      (valueOf : Posting → Journaled Fault Decimal) (s s' : JournalState) (l : Loan),
      (derive? account ps now valueOf currency window).run s = (.ok (some l), s') →
      (l.start.day ≤ now.date.day →
        truncateInt (Formula.Context.heldDays l.start now) = .ok l.daysHeld ∧
          now.CountsDays l.start l.daysHeld) ∧
      ∀ maturity, l.maturity = some maturity → maturity.day < now.date.day →
        truncateInt (Formula.Context.heldDays maturity now) = .ok l.daysOverdue ∧
          now.CountsDays maturity l.daysOverdue := by
  refine ⟨fun start h => Moment.exists_countsDays h, ?_⟩
  intro account currency ps window valueOf s s' l hrun
  obtain ⟨raw, terms, hcoherent⟩ := exists_coherent_of_run_derive? hrun
  refine ⟨fun hstart => ?_, fun maturity hmaturity hpast => ?_⟩
  · obtain ⟨days, hdays, hcounts⟩ := Moment.exists_countsDays hstart
    have hheld := wholeDays_eq_ok_iff.1 hcoherent.daysHeld_eq
    obtain rfl := ok_unique hdays hheld
    exact ⟨hheld, hcounts⟩
  · obtain ⟨days, hdays, hcounts⟩ := Moment.exists_countsDays hpast.le
    obtain ⟨-, hwhole⟩ := hcoherent.progress.maturity_eq maturity hmaturity
    have hleft : days = -l.daysToMaturity := ok_unique hdays (wholeDays_eq_ok_iff.1 hwhole)
    have hoverdue : l.daysOverdue = days := by
      rw [hcoherent.daysOverdue_eq, ← hleft]
      have hto : maturity.daysTo now.date = (now.date.day : Int) - maturity.day := rfl
      have hnear := hcounts.nearby
      omega
    rw [hoverdue]
    exact ⟨hdays, hcounts⟩

/-- A hundred lent for sixty days at the start of the year 2024, when the last day of March ends. -/
theorem heldDays_count_ninety :
    let lent : Posting := ⟨"Loans:Asha", .finite false 100 0, .newYear2024, .one, "", "Target:60d",
      "INR", by decide⟩
    let now : Moment := ⟨⟨738976, by decide, by decide⟩, microsPerDay - 1, some 0, by decide⟩
    let valueOf : Posting → Journaled Fault Decimal := fun p => pure p.amount
    ∃ l s', (derive? "Loans:Asha" [lent] now valueOf "INR" 30).run empty = (.ok (some l), s') ∧
      l.start.daysTo now.date = 90 ∧ now.CountsDays l.start l.daysHeld ∧ l.daysHeld = 90 ∧
      ∃ maturity, l.maturity = some maturity ∧ maturity.daysTo now.date = 30 ∧
        now.CountsDays maturity l.daysOverdue ∧ l.daysOverdue = 30 := by
  intro lent now valueOf
  have hdays : ((ofPostings? "Loans:Asha" [lent] now valueOf "INR" 30).run
      empty).1.toOption.map (fun o => o.map (fun l => (l.start.day, l.maturity.map Date.day))) =
        some (some (738886, some 738946)) := by
    decide +kernel
  obtain ⟨l, s', hderive, hl⟩ := exists_derive?_of_map (Text.isPlain_ofString "Loans:Asha") hdays
  obtain ⟨hstart, hmaturity⟩ := Prod.mk.inj hl
  obtain ⟨maturity, hmaturity, hday⟩ := Option.map_eq_some_iff.1 hmaturity
  obtain ⟨hheld, hoverdue⟩ := (heldDays_count_calendar now).2 _ _ _ _ _ _ _ _ hderive
  have hspan : l.start.daysTo now.date = 90 := by
    show (738976 : Int) - l.start.day = 90
    omega
  have hspan' : maturity.daysTo now.date = 30 := by
    show (738976 : Int) - maturity.day = 30
    omega
  obtain ⟨-, hheld⟩ := hheld (show l.start.day ≤ 738976 by omega)
  obtain ⟨-, hoverdue⟩ := hoverdue maturity hmaturity (show maturity.day < 738976 by omega)
  refine ⟨l, s', hderive, hspan, hheld, ?_, maturity, hmaturity, hspan', hoverdue, ?_⟩
  · exact (hheld.exact_of_near (by omega)).trans hspan
  · exact (hoverdue.exact_of_near (by omega)).trans hspan'

/-- From the first date of the calendar to the last microsecond of the year 2024 a day too many is
counted. A loan of that date with a target of one day reports a day too many as held and as overdue. -/
theorem heldDays_since_first_date :
    let first : Date := ⟨1, by decide, by decide⟩
    let next : Date := ⟨2, by decide, by decide⟩
    let now : Moment := ⟨⟨739251, by decide, by decide⟩, microsPerDay - 1, some 0, by decide⟩
    let lent : Posting := ⟨"Loans:Asha", .finite false 100 0, first, .one, "", "Target:1d", "INR",
      by decide⟩
    let valueOf : Posting → Journaled Fault Decimal := fun p => pure p.amount
    first.daysTo now.date = 739250 ∧ next.daysTo now.date = 739249 ∧
      truncateInt (Formula.Context.heldDays first now) = .ok 739251 ∧
      ∃ l s', (derive? "Loans:Asha" [lent] now valueOf "INR" 30).run empty = (.ok (some l), s') ∧
        (l.daysHeld, l.maturity, l.daysOverdue) = (739251, some next, 739250) := by
  intro first next now lent valueOf
  have hdays : ((ofPostings? "Loans:Asha" [lent] now valueOf "INR" 30).run
      empty).1.toOption.map (fun o => o.map (fun l => (l.daysHeld, l.maturity, l.daysOverdue))) =
        some (some (739251, some next, 739250)) := by
    decide +kernel
  have hspan : truncateInt (Formula.Context.heldDays first now) = .ok 739251 := by decide +kernel
  exact ⟨rfl, rfl, hspan, exists_derive?_of_map (Text.isPlain_ofString "Loans:Asha") hdays⟩

end Loan

end Appraisal
