import Appraisal.Proofs.Number.Report
import Appraisal.Proofs.Loan.Balance

/-!
# The figures of a loan as numbers

Postings with finite amounts give a loan whose figures are finite. What was lent is a running sum of
amounts, its value a running sum of what the postings are worth: their amounts, or money of finite
doubles. So the figures of a loan grow at most with the number of its postings. The main statements:
`reckoned_of_derivation` and `Reckoned.counts`.
-/

namespace Appraisal

open Outcome Journaled Decimal

/-! ### Values of postings -/

namespace Journaled

variable {ε α β : Type} {allowed : ε → Prop} {P : α → Prop} {R : α → β → Prop}

theorem Settles.ensures {x : Journaled ε α} (h : Settles allowed P x) : Ensures P x := by
  obtain ⟨r, hyields, hsound⟩ := h
  intro s a s' hrun
  have hr := hyields s
  rw [hrun] at hr
  subst hr
  exact hsound

/-- The values that are computed one after the other belong to what they are computed from. -/
theorem forall₂_of_run_mapM {f : α → Journaled ε β} (h : ∀ x, Ensures (R x) (f x)) {xs : List α}
    {s s' : JournalState} {ys : List β} (hrun : (xs.mapM f).run s = (.ok ys, s')) :
    List.Forall₂ R xs ys := by
  induction xs generalizing s s' ys with
  | nil =>
      obtain ⟨hys, -⟩ := Prod.mk.inj (show (Except.ok [], s) = (.ok ys, s') from hrun)
      rw [← Except.ok.inj hys]
      exact .nil
  | cons x xs ih =>
      rw [List.mapM_cons] at hrun
      obtain ⟨y, s₁, hy, hrun⟩ := run_bind_eq_ok_iff.1 hrun
      obtain ⟨ys', s₂, hys', hrun⟩ := run_bind_eq_ok_iff.1 hrun
      obtain ⟨hys, -⟩ := Prod.mk.inj (show (Except.ok (y :: ys'), s₂) = (.ok ys, s') from hrun)
      rw [← Except.ok.inj hys]
      exact .cons (h x s y s₁ hy) (ih hys')

end Journaled

namespace Pricing

/-- What a posting can be worth: its amount, or money of a finite double. -/
def IsWorth (p : Posting) (d : Decimal) : Prop :=
  d = p.amount ∨ ∃ x : Float, x.isFinite = true ∧ d = Formula.toMoney x

theorem ensures_evaluate (r : Rule) (p : Posting) (instant : Moment) :
    Ensures (IsWorth p) (evaluate r p instant) := by
  refine (Formula.settles_compiled r.formula).ensures.bind (fun program hp => ?_)
  refine (ensures_true _).bind (fun c _ => ?_)
  have hfinite : Ensures (fun x : Float => x.isFinite = true) (lift (program.runNumeric c.lookup?)) := by
    refine ensures_lift (fun x hx => ?_)
    have hsound := Formula.sound_runNumeric hp c
    rwa [hx] at hsound
  exact hfinite.bind (fun x hx => ensures_pure (.inr ⟨x, hx, rfl⟩))

theorem ensures_marketValue (rules : List Rule) (p : Posting) (instant : Moment) :
    Ensures (fun v => IsWorth p v.1) (marketValue rules p instant) := by
  unfold marketValue
  cases Rule.first? rules p with
  | none => exact ensures_pure (.inl rfl)
  | some r =>
      refine (ensures_evaluate r p instant).outcome.bind (fun o ho => ?_)
      cases o with
      | ok value => exact ensures_pure (ho value rfl)
      | error e =>
          cases e with
          | formula e => exact (ensures_true _).bind (fun _ _ => ensures_pure (.inl rfl))
          | _ => exact ensures_throw _

theorem IsWorth.exists_hasValue {p : Posting} {d : Decimal} (h : IsWorth p d)
    (hp : p.amount.isFinite = true) :
    ∃ v, d.HasValue v ∧ (v = p.amount.toRat ∨ |v| < leastTooLarge) := by
  rcases h with rfl | ⟨x, hx, rfl⟩
  · exact ⟨_, ⟨hp, rfl⟩, .inl rfl⟩
  · obtain ⟨v, hv, hlt⟩ := exists_ofFloat hx
    exact ⟨v, hv, .inr hlt⟩

end Pricing

namespace Loan

theorem ensures_valueOf (rules : List Rule) (now : Moment) (p : Posting) :
    Ensures (Pricing.IsWorth p) (valueOf rules now p) :=
  (Pricing.ensures_marketValue rules p now).bind (fun _ h => ensures_pure h)

/-! ### Figures -/

structure Reckoned (ps : List Posting) (l : Loan) : Prop where
  perm : l.postings.Perm ps
  principal : l.principal.HasValue (runningSum 0 (amounts (lendings l.postings)))
  currentValue : ∃ values, List.Forall₂ Pricing.IsWorth l.postings values ∧
    l.currentValue.HasValue (runningSum 0 (values.map toRat))
  gain : l.gain.HasValue 0 ∨
    l.gain.HasValue (rounded (l.currentValue.toRat - l.principal.toRat))

variable {ps : List Posting} {l : Loan}

theorem forall₂_amounts (ps : List Posting) :
    List.Forall₂ Pricing.IsWorth ps (ps.map Posting.amount) := by
  rw [List.forall₂_map_right_iff]
  exact List.forall₂_same.2 (fun p _ => .inl rfl)

theorem isFinite_of_forall₂ {values : List Decimal} (h : List.Forall₂ Pricing.IsWorth ps values)
    (hfinite : ∀ p ∈ ps, p.amount.isFinite = true) : ∀ d ∈ values, d.isFinite = true := by
  intro d hd
  obtain ⟨p, hp, hworth⟩ := exists_mem_of_forall₂ h hd
  obtain ⟨v, hv, -⟩ := hworth.exists_hasValue (hfinite p hp)
  exact hv.1

theorem hasValue_sum {ds : List Decimal} {total : Decimal} (hfinite : ∀ d ∈ ds, d.isFinite = true)
    (h : sum ds = .ok total) : total.HasValue (runningSum 0 (ds.map toRat)) :=
  hasValue_foldlM_add hfinite hasValue_zero h

section

variable {account currency : Text} {now : Moment} {window : Int} {rules : List Rule}
  {s : JournalState} {raw : Decimal} {terms : Note.Terms}

theorem reckoned_of_coherent (hfinite : ∀ p ∈ ps, p.amount.isFinite = true)
    (h : Coherent account currency ps now window (valueOf rules now) s raw terms l) :
    Reckoned ps l := by
  have hperm := h.byDate.perm
  have hfinite' : ∀ p ∈ l.postings, p.amount.isFinite = true :=
    fun p hp => hfinite p (hperm.mem_iff.1 hp)
  have hprincipal : l.principal.HasValue (runningSum 0 (amounts (lendings l.postings))) := by
    have hsum := h.principal_eq
    rw [principalOf_eq_sum hfinite'] at hsum
    rw [← map_toRat_amount]
    refine hasValue_sum (fun d hd => ?_) hsum
    obtain ⟨p, hp, rfl⟩ := List.mem_map.1 hd
    exact hfinite' p (List.mem_filter.1 hp).1
  have hvalue : ∃ values, List.Forall₂ Pricing.IsWorth l.postings values ∧
      l.currentValue.HasValue (runningSum 0 (values.map toRat)) := by
    by_cases hclosed : l.status = .closed
    · have hworth := forall₂_amounts l.postings
      rw [h.value_of_closed hclosed]
      exact ⟨_, hworth, hasValue_sum (isFinite_of_forall₂ hworth hfinite') h.raw_eq⟩
    · obtain ⟨values, s', hvalues, hsum⟩ := h.value_of_open hclosed
      have hworth := forall₂_of_run_mapM (ensures_valueOf rules now) hvalues
      exact ⟨values, hworth, hasValue_sum (isFinite_of_forall₂ hworth hfinite') hsum⟩
  refine ⟨hperm, hprincipal, hvalue, ?_⟩
  by_cases hsettled : l.status = .closed ∧ Decimal.compare? raw .zero = some .eq
  · rw [h.gain_of_settled hsettled]
    exact .inl hasValue_zero
  · obtain ⟨values, -, hcurrent⟩ := hvalue
    have hgain := isRounded_sub hcurrent hprincipal
    rw [h.gain_eq hsettled] at hgain
    rw [hcurrent.2, hprincipal.2]
    cases hgain with
    | ok hd _ => exact .inr hd

end

/-- The loan of an account whose amounts are finite has finite figures. -/
theorem reckoned_of_derivation {t : ListingTerms} {P : List Posting} {account : Text}
    (haccount : ∃ p ∈ P, p.account = account) (hfinite : ∀ p ∈ P, p.amount.isFinite = true)
    (h : derivation t P account = .ok (some l)) :
    Reckoned (P.filter (fun p => p.account = account)) l := by
  obtain ⟨-, s', hrun⟩ := run_derive?_eq_ok_iff.1 ⟨_, Prod.ext h rfl⟩
  obtain ⟨l', raw, terms, hl, hcoherent⟩ := coherent_of_ofPostings? (filter_ne_nil haccount) hrun
  obtain rfl := Option.some.inj hl
  exact reckoned_of_coherent (fun p hp => hfinite p (List.mem_filter.1 hp).1) hcoherent

/-! ### Bounds -/

theorem Reckoned.principal_nonneg (h : Reckoned ps l) : 0 ≤ l.principal.toRat := by
  rw [h.principal.2]
  apply runningSum_nonneg le_rfl
  intro q hq
  obtain ⟨p, hp, rfl⟩ := List.mem_map.1 hq
  exact (of_decide_eq_true (List.mem_filter.1 hp).2).le

structure Counts (n : Nat) (unit : Int) (l : Loan) : Prop where
  principal : |l.principal.toRat| ≤ n * 10 ^ unit
  currentValue : |l.currentValue.toRat| ≤ n * 10 ^ unit
  gain : |l.gain.toRat| ≤ (2 * n : Nat) * 10 ^ unit

theorem abs_le_of_forall₂ {values : List Decimal} (h : List.Forall₂ Pricing.IsWorth ps values)
    {unit : Int} (hunit : 400 ≤ unit)
    (hamounts : ∀ p ∈ ps, p.amount.isFinite = true ∧ |p.amount.toRat| ≤ 10 ^ unit) :
    ∀ q ∈ values.map toRat, |q| ≤ 10 ^ unit := by
  have hdouble : (leastTooLarge : ℚ) ≤ 10 ^ unit :=
    Binary.leastTooLarge_le_ten_zpow.trans (zpow_le_zpow_right₀ (by norm_num) hunit)
  rw [List.forall_mem_map]
  intro d hd
  obtain ⟨p, hp, hworth⟩ := exists_mem_of_forall₂ h hd
  obtain ⟨v, hv, rfl | hlt⟩ := hworth.exists_hasValue (hamounts p hp).1
  · exact hv.2 ▸ (hamounts p hp).2
  · exact hv.2 ▸ hlt.le.trans hdouble

/-- Amounts of at most one unit each, which is no less than every double, give figures of at most as
many units as there are postings. -/
theorem Reckoned.counts (h : Reckoned ps l) {unit : Int} (hunit : 400 ≤ unit)
    (hamounts : ∀ p ∈ ps, p.amount.isFinite = true ∧ |p.amount.toRat| ≤ 10 ^ unit)
    (hfew : 2 * ps.length < 10 ^ precision) : l.Counts ps.length unit := by
  have htiny : tinyExponent ≤ unit := le_trans (by decide) hunit
  have hlength := h.perm.length_eq
  have hamounts' : ∀ p ∈ l.postings, p.amount.isFinite = true ∧ |p.amount.toRat| ≤ 10 ^ unit :=
    fun p hp => hamounts p (h.perm.mem_iff.1 hp)
  have hprincipal : |l.principal.toRat| ≤ ps.length * 10 ^ unit := by
    rw [h.principal.2]
    refine abs_runningSum_le_length htiny (fun q hq => ?_) ?_ (by omega)
    · obtain ⟨p, hp, rfl⟩ := List.mem_map.1 hq
      exact (hamounts' p (List.mem_filter.1 hp).1).2
    · rw [length_amounts, ← hlength]
      exact List.length_filter_le _ _
  have hcurrent : |l.currentValue.toRat| ≤ ps.length * 10 ^ unit := by
    obtain ⟨values, hvalues, hsum⟩ := h.currentValue
    rw [hsum.2]
    refine abs_runningSum_le_length htiny (abs_le_of_forall₂ hvalues hunit hamounts') ?_ (by omega)
    rw [List.length_map, ← hvalues.length_eq, hlength]
  refine ⟨hprincipal, hcurrent, ?_⟩
  rcases h.gain with hgain | hgain
  · rw [hgain.2, abs_zero]
    exact mul_nonneg (Nat.cast_nonneg _) (ten_zpow_pos unit).le
  · have hrounded := abs_rounded_add_le htiny hcurrent ((abs_neg _).trans_le hprincipal) (by omega)
    rwa [← sub_eq_add_neg, ← hgain.2, ← Nat.two_mul] at hrounded

end Loan

end Appraisal
