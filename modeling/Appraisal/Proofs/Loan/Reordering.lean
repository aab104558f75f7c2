import Appraisal.Proofs.Loan.Balance

/-!
# Postings in another order

The order in which postings are handed over bears on a loan through the postings of its first day
alone: the terms are those that the first of them declares. When the sums of the amounts and of the
values are exact, all else is the same for every order, and so are the terms when the postings of the
first day declare the same. The main statement: `derive?_of_perm`.
-/

namespace Appraisal

namespace Decimal

variable {a b : Decimal} {x y : ℚ}

theorem equal_eq (ha : a.HasValue x) (hb : b.HasValue y) : a.equal b = .ok (decide (x = y)) := by
  have htrue := equal_eq_true_iff ha hb
  obtain ⟨s₁, c₁, e₁, rfl, -⟩ := ha.exists_finite
  obtain ⟨s₂, c₂, e₂, rfl, -⟩ := hb.exists_finite
  by_cases h : x = y
  · rw [htrue.2 h, decide_eq_true h]
  · rw [decide_eq_false h]
    obtain ⟨r, hr⟩ : ∃ r, (finite s₁ c₁ e₁).equal (finite s₂ c₂ e₂) = .ok r := ⟨_, rfl⟩
    cases r with
    | true => exact absurd (htrue.1 hr) h
    | false => exact hr

/-- Two outcomes with the same exact result are both rounded to it. -/
theorem IsRounded.exists_ok {r r' : Except DecimalError Decimal} {q : ℚ} {d : Decimal}
    (h : IsRounded r q) (h' : IsRounded r' q) (hd : r = .ok d) :
    d.HasValue (rounded q) ∧ ∃ d', r' = .ok d' ∧ d'.HasValue (rounded q) := by
  subst hd
  cases h with
  | ok hvalue hlt => exact ⟨hvalue, h'.eq_ok hlt⟩

end Decimal

namespace Loan

open Decimal Outcome Journaled

/-! ### Derivations apart from the journal -/

section

variable {value : Posting → Except Fault Decimal} {ps : List Posting}

theorem valueSum_eq_ok_iff {total : Decimal} : valueSum value ps = .ok total ↔
    ∃ values, ps.mapM value = .ok values ∧ Decimal.sum values = .ok total := by
  unfold valueSum Decimal.sum
  generalize Decimal.zero = start
  simp only [given_eq]
  induction ps generalizing start with
  | nil => simp
  | cons p ps ih =>
      simp only [List.foldlM_cons, List.mapM_cons, bind_eq_ok_iff, mapError_eq_ok_iff, ih,
        pure_eq_ok, Except.ok.injEq]
      constructor
      · rintro ⟨next, ⟨v, hv, hadd⟩, vs, hvs, hsum⟩
        exact ⟨v :: vs, ⟨v, hv, vs, hvs, rfl⟩, by rw [List.foldlM_cons, hadd]; exact hsum⟩
      · rintro ⟨_, ⟨v, hv, vs, hvs, rfl⟩, hsum⟩
        obtain ⟨next, hadd, hsum⟩ := bind_eq_ok_iff.1 hsum
        exact ⟨next, ⟨v, hv, hadd⟩, vs, hvs, hsum⟩

/-- What a loan stands at before its gain is known: the value of its postings, or the sum of their
amounts when it is marked as closed. -/
def standing (value : Posting → Except Fault Decimal) (ps : List Posting) (raw : Decimal) :
    Except Fault Decimal :=
  if isMarkedClosed ps then .ok raw else valueSum value ps

theorem ofPostings?_eq_ok_iff {first : Posting} {rest : List Posting}
    (hc : chronological ps = first :: rest) {account currency : Text} {now : Moment} {window : Int}
    {o : Option Loan} : ofPostings? account ps now value currency window = .ok o ↔
      ∃ principal raw total l, principalOf (first :: rest) = .ok principal ∧
        rawBalance (first :: rest) = .ok raw ∧ standing value (first :: rest) raw = .ok total ∧
        ofSums account currency first (first :: rest) principal raw total now window = .ok l ∧
        o = some l := by
  have hsteps : ofPostings? account ps now value currency window = (do
      let principal ← (principalOf (first :: rest)).mapError .decimal
      let raw ← (rawBalance (first :: rest)).mapError .decimal
      let total ← standing value (first :: rest) raw
      let loan ← ofSums account currency first (first :: rest) principal raw total now window
      return some loan) := by
    unfold ofPostings? standing
    rw [hc]
    simp only [given_eq]
    by_cases hmarked : isMarkedClosed (first :: rest) = true
    · simp only [if_pos hmarked]
      rfl
    · simp only [if_neg hmarked]
  rw [hsteps]
  simp only [bind_eq_ok_iff, mapError_eq_ok_iff, pure_eq_ok, Except.ok.injEq]
  constructor
  · rintro ⟨principal, hprincipal, raw, hraw, total, htotal, l, hl, rfl⟩
    exact ⟨principal, raw, total, l, hprincipal, hraw, htotal, hl, rfl⟩
  · rintro ⟨principal, raw, total, l, hprincipal, hraw, htotal, hl, rfl⟩
    exact ⟨principal, hprincipal, raw, hraw, total, htotal, l, hl, rfl⟩

end

/-! ### Sums in another order -/

section

variable {value : Posting → Except Fault Decimal} {ps qs : List Posting}

theorem isMarkedClosed_eq_of_perm (h : qs.Perm ps) : isMarkedClosed qs = isMarkedClosed ps :=
  h.any_eq

theorem sum_amounts_eq_of_perm (h : qs.Perm ps) : (amounts qs).sum = (amounts ps).sum :=
  (perm_amounts h).sum_eq

theorem perm_lendings (h : qs.Perm ps) : (lendings qs).Perm (lendings ps) := h.filter _

theorem exists_rawBalance (h : SumsFit (ps.map Posting.amount)) :
    ∃ raw, rawBalance ps = .ok raw ∧ raw.HasValue (amounts ps).sum := by
  obtain ⟨raw, hraw, hsum⟩ := h.exists_sum
  rw [IsSum, map_toRat_amount] at hsum
  exact ⟨raw, hraw, hsum⟩

theorem exists_principalOf (h : SumsFit (ps.map Posting.amount)) :
    ∃ principal, principalOf ps = .ok principal ∧
      principal.HasValue (amounts (lendings ps)).sum := by
  rw [principalOf_eq_sum (fun p hp => h.finite _ (List.mem_map_of_mem hp))]
  exact exists_rawBalance (h.subperm (List.filter_sublist.map _).subperm)

/-- All sums of the amounts are exact, and so are those of the values where these are asked for. -/
structure AddsUp (value : Posting → Except Fault Decimal) (ps : List Posting) : Prop where
  amounts : SumsFit (ps.map Posting.amount)
  values : isMarkedClosed ps = false → ∀ values, ps.mapM value = .ok values → SumsFit values

theorem AddsUp.perm (h : AddsUp value ps) (hperm : qs.Perm ps) : AddsUp value qs where
  amounts := h.amounts.subperm (hperm.map _).subperm
  values := by
    intro hopen values hvalues
    rw [isMarkedClosed_eq_of_perm hperm] at hopen
    obtain ⟨others, hothers, hvalues'⟩ := exists_mapM_of_perm hperm hvalues
    exact (h.values hopen others hothers).subperm hvalues'.subperm

theorem AddsUp.exists_standing (h : AddsUp value ps) (hperm : qs.Perm ps) {raw raw' total : Decimal}
    {x : ℚ} (hraw : raw.HasValue x) (hraw' : raw'.HasValue x)
    (htotal : standing value ps raw = .ok total) :
    ∃ total' y, standing value qs raw' = .ok total' ∧ total.HasValue y ∧ total'.HasValue y := by
  unfold standing at *
  rw [isMarkedClosed_eq_of_perm hperm]
  by_cases hmarked : isMarkedClosed ps = true
  · rw [if_pos hmarked] at htotal ⊢
    obtain rfl := Except.ok.inj htotal
    exact ⟨raw', x, rfl, hraw, hraw'⟩
  · rw [if_neg hmarked] at htotal ⊢
    obtain ⟨values, hvalues, hsum⟩ := valueSum_eq_ok_iff.1 htotal
    obtain ⟨others, hothers, hvalues'⟩ := exists_mapM_of_perm hperm.symm hvalues
    have hfit := h.values (Bool.eq_false_of_not_eq_true hmarked) values hvalues
    obtain ⟨_, hsum', hexact⟩ := hfit.exists_sum
    obtain rfl := ok_unique hsum hsum'
    obtain ⟨total', htotal', hexact'⟩ := (hfit.subperm hvalues'.symm.subperm).exists_sum
    exact ⟨total', _, valueSum_eq_ok_iff.2 ⟨others, hothers, htotal'⟩, hexact,
      hexact'.perm hvalues'⟩

end

structure Figures (value : Posting → Except Fault Decimal) (ps : List Posting)
    (principal raw total : Decimal) (x y z : ℚ) : Prop where
  principal_eq : principalOf ps = .ok principal
  raw_eq : rawBalance ps = .ok raw
  total_eq : standing value ps raw = .ok total
  principal : principal.HasValue x
  raw : raw.HasValue y
  total : total.HasValue z

/-- In another order the figures are the same numbers. -/
theorem AddsUp.exists_figures {value : Posting → Except Fault Decimal} {ps qs : List Posting}
    (h : AddsUp value ps) (hperm : qs.Perm ps) {principal raw total : Decimal}
    (hprincipal : principalOf ps = .ok principal) (hraw : rawBalance ps = .ok raw)
    (htotal : standing value ps raw = .ok total) :
    ∃ x y z, Figures value ps principal raw total x y z ∧
      ∃ principal' raw' total', Figures value qs principal' raw' total' x y z := by
  have hqs := (h.perm hperm).amounts
  obtain ⟨_, hprincipal₁, hx⟩ := exists_principalOf h.amounts
  obtain rfl := ok_unique hprincipal hprincipal₁
  obtain ⟨_, hraw₁, hy⟩ := exists_rawBalance h.amounts
  obtain rfl := ok_unique hraw hraw₁
  obtain ⟨principal', hprincipal', hx'⟩ := exists_principalOf hqs
  rw [sum_amounts_eq_of_perm (perm_lendings hperm)] at hx'
  obtain ⟨raw', hraw', hy'⟩ := exists_rawBalance hqs
  rw [sum_amounts_eq_of_perm hperm] at hy'
  obtain ⟨total', z, htotal', hz, hz'⟩ := h.exists_standing hperm hy hy' htotal
  exact ⟨_, _, z, ⟨hprincipal, hraw, htotal, hx, hy, hz⟩, principal', raw', total',
    ⟨hprincipal', hraw', htotal', hx', hy', hz'⟩⟩

/-! ### Loans of the same sums -/

theorem isNothing_eq {value : Decimal} {x : ℚ} (h : value.HasValue x) :
    isNothing value = .ok (decide (x ≤ 0)) := by
  unfold isNothing order
  rw [compare?_eq h hasValue_zero]
  rcases lt_trichotomy x 0 with hx | rfl | hx
  · rw [compare_lt_iff_lt.2 hx, decide_eq_true hx.le]
    rfl
  · rw [compare_eq_iff_eq.2 rfl, decide_eq_true le_rfl]
    rfl
  · rw [compare_gt_iff_gt.2 hx, decide_eq_false (not_le.2 hx)]
    rfl

/-- A gain depends on the numbers that its figures stand for. -/
theorem exists_gainOf {closed : Bool} {current current' principal principal' raw raw' gain : Decimal}
    {x y z : ℚ} (hcurrent : current.HasValue x) (hcurrent' : current'.HasValue x)
    (hprincipal : principal.HasValue y) (hprincipal' : principal'.HasValue y)
    (hraw : raw.HasValue z) (hraw' : raw'.HasValue z)
    (h : gainOf closed current principal raw = .ok gain) :
    ∃ gain' g, gainOf closed current' principal' raw' = .ok gain' ∧ gain.HasValue g ∧
      gain'.HasValue g := by
  unfold gainOf at h ⊢
  rw [equal_eq hraw hasValue_zero] at h
  rw [equal_eq hraw' hasValue_zero]
  obtain ⟨difference, hsub, h⟩ := bind_eq_ok_iff.1 h
  obtain ⟨hvalue, difference', hsub', hvalue'⟩ := (isRounded_sub hcurrent hprincipal).exists_ok
    (isRounded_sub hcurrent' hprincipal') (mapError_eq_ok_iff.1 hsub)
  rw [hsub']
  cases closed with
  | false =>
      obtain rfl := Except.ok.inj h
      exact ⟨difference', _, rfl, hvalue, hvalue'⟩
  | true =>
      obtain rfl : (if decide (z = 0) = true then zero else difference) = gain := Except.ok.inj h
      refine ⟨if decide (z = 0) = true then zero else difference',
        if z = 0 then 0 else rounded (x - y), rfl, ?_, ?_⟩
      · by_cases hz : z = 0 <;> simp [hz, hasValue_zero, hvalue]
      · by_cases hz : z = 0 <;> simp [hz, hasValue_zero, hvalue']

theorem exists_hasValue_ite (closed : Bool) {raw raw' total total' : Decimal} {y z : ℚ}
    (hraw : raw.HasValue y) (hraw' : raw'.HasValue y) (htotal : total.HasValue z)
    (htotal' : total'.HasValue z) : ∃ u, (if closed then raw else total).HasValue u ∧
      (if closed then raw' else total').HasValue u := by
  cases closed with
  | true => exact ⟨y, hraw, hraw'⟩
  | false => exact ⟨z, htotal, htotal'⟩

/-- What two loans have in common that are derived from the same postings in different orders. -/
structure Alike (l l' : Loan) : Prop where
  account_eq : l'.account = l.account
  currency_eq : l'.currency = l.currency
  start_eq : l'.start = l.start
  daysHeld_eq : l'.daysHeld = l.daysHeld
  closed_iff : l'.status = .closed ↔ l.status = .closed
  principal_equal : l'.principal.equal l.principal = .ok true
  currentValue_equal : l'.currentValue.equal l.currentValue = .ok true
  gain_equal : l'.gain.equal l.gain = .ok true
  postings_perm : l'.postings.Perm l.postings
  dates_eq : l'.postings.map Posting.date = l.postings.map Posting.date

/-- Agreement in every field. Decimals agree as numbers, and postings of one day may be listed in
different orders. -/
structure Agrees (l l' : Loan) : Prop extends Alike l l' where
  declared_eq : l'.interestRate = l.interestRate ∧ l'.period = l.period ∧ l'.risk = l.risk
  progress_eq : progressOf l' = progressOf l

section

variable {value : Posting → Except Fault Decimal} {account currency : Text} {now : Moment}
  {window : Int} {first first' : Posting} {ps qs : List Posting}
  {principal principal' raw raw' total total' : Decimal} {x y z : ℚ} {l l' : Loan}
  (hdate : first'.date = first.date) (hperm : qs.Perm ps)
  (hdates : qs.map Posting.date = ps.map Posting.date)
  (hfigures : Figures value ps principal raw total x y z)
  (hfigures' : Figures value qs principal' raw' total' x y z)
  (h : ofSums account currency first ps principal raw total now window = .ok l)
include hdate hperm hdates hfigures hfigures' h

theorem alike_of_ofSums
    (h' : ofSums account currency first' qs principal' raw' total' now window = .ok l') :
    Alike l l' := by
  obtain ⟨nothing, terms, daysHeld, p, gain, hnothing, -, hdays, hp, hgain, rfl⟩ :=
    ofSums_eq_ok_iff.1 h
  obtain ⟨nothing', terms', daysHeld', p', gain', hnothing', -, hdays', hp', hgain', rfl⟩ :=
    ofSums_eq_ok_iff.1 h'
  obtain rfl := ok_unique (isNothing_eq hfigures.total) hnothing
  obtain rfl := ok_unique (isNothing_eq hfigures'.total) hnothing'
  rw [hdate] at hdays' hp'
  obtain rfl := ok_unique hdays hdays'
  rw [isMarkedClosed_eq_of_perm hperm] at hgain' hp' ⊢
  generalize (isMarkedClosed ps || decide (z ≤ 0)) = closed at *
  obtain ⟨u, hcurrent, hcurrent'⟩ := exists_hasValue_ite closed hfigures.raw hfigures'.raw
    hfigures.total hfigures'.total
  obtain ⟨gain₁, g, hgain₁, hvalue, hvalue'⟩ :=
    exists_gainOf hcurrent hcurrent' hfigures.principal hfigures'.principal hfigures.raw
      hfigures'.raw hgain
  obtain rfl := ok_unique hgain' hgain₁
  exact {
    account_eq := rfl
    currency_eq := rfl
    start_eq := hdate
    daysHeld_eq := rfl
    closed_iff := (coherent_progress hp').2.trans (coherent_progress hp).2.symm
    principal_equal := (equal_eq_true_iff hfigures'.principal hfigures.principal).2 rfl
    currentValue_equal := (equal_eq_true_iff hcurrent' hcurrent).2 rfl
    gain_equal := (equal_eq_true_iff hvalue' hvalue).2 rfl
    postings_perm := hperm
    dates_eq := hdates }

/-- With the same terms all else is the same as well. -/
theorem exists_agrees_of_ofSums
    (hterms : Note.Terms.ofNote first'.transactionNote = Note.Terms.ofNote first.transactionNote) :
    ∃ l', ofSums account currency first' qs principal' raw' total' now window = .ok l' ∧
      Agrees l l' := by
  obtain ⟨nothing, terms, daysHeld, p, gain, hnothing, hfirst, hdays, hp, hgain, hl⟩ :=
    ofSums_eq_ok_iff.1 h
  obtain rfl := ok_unique (isNothing_eq hfigures.total) hnothing
  obtain ⟨u, hcurrent, hcurrent'⟩ :=
    exists_hasValue_ite (isMarkedClosed ps || decide (z ≤ 0)) hfigures.raw hfigures'.raw
      hfigures.total hfigures'.total
  obtain ⟨gain', g, hgain', -, -⟩ :=
    exists_gainOf hcurrent hcurrent' hfigures.principal hfigures'.principal hfigures.raw
      hfigures'.raw hgain
  rw [← hterms] at hfirst
  rw [← hdate] at hdays hp
  rw [← isMarkedClosed_eq_of_perm hperm] at hp hgain'
  have h' : ofSums account currency first' qs principal' raw' total' now window = .ok _ :=
    ofSums_eq_ok_iff.2
      ⟨_, terms, daysHeld, p, gain', isNothing_eq hfigures'.total, hfirst, hdays, hp, hgain', rfl⟩
  refine ⟨_, h', alike_of_ofSums hdate hperm hdates hfigures hfigures' h h', ?_, ?_⟩
  · rw [hl]
    exact ⟨rfl, rfl, rfl⟩
  · rw [hl]
    rfl

end

/-! ### Derivations in another order -/

/-- The postings of the first day declare the same terms. -/
def DeclaresOnce (ps : List Posting) : Prop :=
  ∀ p ∈ ps, ∀ q ∈ ps, (∀ r ∈ ps, p.date.day ≤ r.date.day) → q.date = p.date →
    Note.Terms.ofNote q.transactionNote = Note.Terms.ofNote p.transactionNote

/-- Sorting leaves no choice for the dates. -/
theorem dates_chronological_eq {ps qs : List Posting} (h : qs.Perm ps) :
    (chronological qs).map Posting.date = (chronological ps).map Posting.date := by
  have hps := isByDate_chronological ps
  have hqs := isByDate_chronological qs
  have hperm := (hqs.perm.trans (h.trans hps.perm.symm)).map Posting.date
  refine hperm.eq_of_pairwise (fun d e _ _ (hde : d.day ≤ e.day) (hed : e.day ≤ d.day) =>
    Date.ext (Nat.le_antisymm hde hed)) ?_ ?_
  · exact List.pairwise_map.2 hqs.byDate
  · exact List.pairwise_map.2 hps.byDate

section

variable {value : Posting → Except Fault Decimal} {account currency : Text} {now : Moment}
  {window : Int} {ps qs : List Posting} {o : Option Loan}

theorem ofPostings?_nil : ofPostings? account [] now value currency window = .ok none := rfl

/-- From two orders of the same postings, the figures are the same and so is the first date. -/
theorem relates_of_ofPostings? (hfit : AddsUp value ps) (hperm : qs.Perm ps)
    (h : ofPostings? account ps now value currency window = .ok o) :
    (∀ o', ofPostings? account qs now value currency window = .ok o' → Option.Rel Alike o o') ∧
      (DeclaresOnce ps → ∃ o', ofPostings? account qs now value currency window = .ok o' ∧
        Option.Rel Agrees o o') := by
  by_cases hne : ps = []
  · obtain rfl := hne
    obtain rfl := hperm.eq_nil
    rw [ofPostings?_nil] at h ⊢
    obtain rfl := Except.ok.inj h
    exact ⟨fun o' h' => Except.ok.inj h' ▸ .none, fun _ => ⟨none, rfl, .none⟩⟩
  · have hps := isByDate_chronological ps
    have hqs := isByDate_chronological qs
    have hdates := dates_chronological_eq hperm
    obtain ⟨first, rest, hc⟩ := List.exists_cons_of_ne_nil (chronological_ne_nil hne)
    have hne' : qs ≠ [] := by
      rintro rfl
      exact hne hperm.nil_eq.symm
    obtain ⟨first', rest', hc'⟩ := List.exists_cons_of_ne_nil (chronological_ne_nil hne')
    rw [hc] at hps hdates
    rw [hc'] at hqs hdates
    have hperm' : (first' :: rest').Perm (first :: rest) :=
      hqs.perm.trans (hperm.trans hps.perm.symm)
    have hdate : first'.date = first.date := (List.cons.inj hdates).1
    obtain ⟨principal, raw, total, l, hprincipal, hraw, htotal, hl, rfl⟩ :=
      (ofPostings?_eq_ok_iff hc).1 h
    obtain ⟨x, y, z, hfigures, principal', raw', total', hfigures'⟩ :=
      (hfit.perm hps.perm).exists_figures hperm' hprincipal hraw htotal
    constructor
    · intro o' h'
      obtain ⟨_, _, _, l', hprincipal₂, hraw₂, htotal₂, hl', rfl⟩ :=
        (ofPostings?_eq_ok_iff hc').1 h'
      obtain rfl := ok_unique hfigures'.principal_eq hprincipal₂
      obtain rfl := ok_unique hfigures'.raw_eq hraw₂
      obtain rfl := ok_unique hfigures'.total_eq htotal₂
      exact .some (alike_of_ofSums hdate hperm' hdates hfigures hfigures' hl hl')
    · intro honce
      have hfirst : first ∈ ps := hps.perm.mem_iff.1 List.mem_cons_self
      have hfirst' : first' ∈ ps := hperm.mem_iff.1 (hqs.perm.mem_iff.1 List.mem_cons_self)
      have hterms := honce first hfirst first' hfirst' (fun r hr => hps.day_le_of_head hr) hdate
      obtain ⟨l', hl', hagrees⟩ :=
        exists_agrees_of_ofSums hdate hperm' hdates hfigures hfigures' hl hterms
      exact ⟨some l', (ofPostings?_eq_ok_iff hc').2 ⟨principal', raw', total', l',
        hfigures'.principal_eq, hfigures'.raw_eq, hfigures'.total_eq, hl', rfl⟩, .some hagrees⟩

variable {valueOf : Posting → Journaled Fault Decimal} {s s' : JournalState}

/-- The order of postings. A derivation in another order gives the same loan but for what the first
note declares, and just the same when the postings of the first day declare the same terms. -/
theorem derive?_of_perm (hvalue : ∀ p, Yields (valueOf p) (value p)) (hfit : AddsUp value ps)
    (hperm : qs.Perm ps)
    (h : (derive? account ps now valueOf currency window).run s = (.ok o, s')) :
    (∀ t t' o', (derive? account qs now valueOf currency window).run t = (.ok o', t') →
      Option.Rel Alike o o') ∧
    (DeclaresOnce ps → ∀ t, ∃ o' t',
      (derive? account qs now valueOf currency window).run t = (.ok o', t') ∧
        Option.Rel Agrees o o') := by
  have houtcome (rs : List Posting) (t : JournalState) :
      ((ofPostings? account rs now valueOf currency window).run t).1 =
        ofPostings? account rs now value currency window :=
    yields_ofPostings? hvalue account rs now currency window t
  obtain ⟨⟨f, hf⟩, s₁, hrun⟩ := run_derive?_eq_ok_iff.1 ⟨s', h⟩
  have hpure := houtcome ps s
  rw [hrun] at hpure
  obtain ⟨halike, hagrees⟩ := relates_of_ofPostings? hfit hperm hpure.symm
  constructor
  · intro t t' o' h'
    obtain ⟨-, t₁, hrun'⟩ := run_derive?_eq_ok_iff.1 ⟨t', h'⟩
    have hpure' := houtcome qs t
    rw [hrun'] at hpure'
    exact halike o' hpure'.symm
  · intro honce t
    obtain ⟨o', hpure', hrel⟩ := hagrees honce
    have hplain := isPlain_of_fingerprint_inputs hf
    obtain ⟨t', hderive⟩ := run_derive?_eq_ok_iff.2
      ⟨exists_fingerprint_inputs hplain qs now, _, Prod.ext ((houtcome qs t).trans hpure') rfl⟩
    exact ⟨o', t', hderive, hrel⟩

end

theorem mapM_amount (ps : List Posting) :
    ps.mapM (fun p => (.ok p.amount : Except Fault Decimal)) = .ok (ps.map Posting.amount) := by
  induction ps with
  | nil => rfl
  | cons p ps ih => rw [List.mapM_cons, ih]; rfl

/-- Postings that are worth their amounts add up when the amounts do. -/
theorem addsUp_of_addsExactly {ps : List Posting} (h : AddsExactly (ps.map Posting.amount)) :
    AddsUp (fun p => .ok p.amount) ps where
  amounts := h.sumsFit
  values := by
    intro _ values hvalues
    obtain rfl := ok_unique (mapM_amount ps) hvalues
    exact h.sumsFit

/-- A hundred lent for sixty days, of which thirty came back on the same day with the same terms, when
forty days have passed. -/
theorem derive?_of_repaid_first :
    let lent : Posting := ⟨"Loans:Asha", .finite false 100 0, .newYear2024, .one, "", "Target:60d",
      "INR", by decide⟩
    let repaid : Posting := ⟨"Loans:Asha", .finite true 30 0, .newYear2024, .one, "back",
      "Target:60d", "INR", by decide⟩
    let now : Moment := ⟨⟨738926, by decide, by decide⟩, 0, none, by decide⟩
    let valueOf : Posting → Journaled Fault Decimal := fun p => pure p.amount
    let value : Posting → Except Fault Decimal := fun p => .ok p.amount
    (∀ p, Yields (valueOf p) (value p)) ∧ AddsUp value [lent, repaid] ∧
      [repaid, lent].Perm [lent, repaid] ∧ DeclaresOnce [lent, repaid] ∧
      ∃ l s, (derive? "Loans:Asha" [lent, repaid] now valueOf "INR" 30).run empty =
          (.ok (some l), s) ∧
        ∃ l' s', (derive? "Loans:Asha" [repaid, lent] now valueOf "INR" 30).run empty =
          (.ok (some l'), s') ∧ Agrees l l' := by
  intro lent repaid now valueOf value
  have hvalue (p : Posting) : Yields (valueOf p) (value p) := yields_pure p.amount
  have hfit : AddsUp value [lent, repaid] :=
    addsUp_of_addsExactly (addsExactly_of_exponents (by simp [lent, repaid])
      (by norm_num [lent, repaid, toRat, number]))
  have hperm : [repaid, lent].Perm [lent, repaid] := .swap lent repaid []
  have honce : DeclaresOnce [lent, repaid] := by
    intro p hp q hq _ _
    rcases List.mem_pair.1 hp with rfl | rfl <;> rcases List.mem_pair.1 hq with rfl | rfl <;> rfl
  have hrun : ((ofPostings? "Loans:Asha" [lent, repaid] now valueOf "INR" 30).run
      empty).1.toOption.map (fun o => o.map Loan.status) = some (some .maturing) := by
    decide +kernel
  obtain ⟨o, s₁, hrun, ho⟩ := exists_of_map_toOption hrun
  obtain ⟨s, h⟩ := run_derive?_eq_ok_iff.2
    ⟨exists_fingerprint_inputs (Text.isPlain_ofString "Loans:Asha") [lent, repaid] now, s₁, hrun⟩
  obtain ⟨l, rfl, -⟩ := Option.map_eq_some_iff.1 ho
  obtain ⟨o', s', h', hrel⟩ := (derive?_of_perm hvalue hfit hperm h).2 honce empty
  cases hrel with
  | some hagrees => exact ⟨hvalue, hfit, hperm, honce, l, s, h, _, s', h', hagrees⟩

/-- Two amounts lent on one day on different terms, when sixty-five days have passed: the loan is active
or overdue, as the one or the other is handed over first. -/
theorem not_agrees_of_same_day :
    let small : Posting := ⟨"Loans:Asha", .finite false 50 0, .newYear2024, .one, "", "Int:5", "INR",
      by decide⟩
    let large : Posting := ⟨"Loans:Asha", .finite false 100 0, .newYear2024, .one, "",
      "Int:12 Target:60d", "INR", by decide⟩
    let now : Moment := ⟨⟨738951, by decide, by decide⟩, 0, some 0, by decide⟩
    let valueOf : Posting → Journaled Fault Decimal := fun p => pure p.amount
    AddsUp (fun p => .ok p.amount) [small, large] ∧ [large, small].Perm [small, large] ∧
      ∃ l s, (derive? "Loans:Asha" [small, large] now valueOf "INR" 30).run empty =
          (.ok (some l), s) ∧
        ∃ l' s', (derive? "Loans:Asha" [large, small] now valueOf "INR" 30).run empty =
          (.ok (some l'), s') ∧
        l.status = .active ∧ l'.status = .overdue ∧ ¬ Agrees l l' := by
  intro small large now valueOf
  have hfit : AddsUp (fun p => .ok p.amount) [small, large] :=
    addsUp_of_addsExactly (addsExactly_of_exponents (by simp [small, large])
      (by norm_num [small, large, toRat, number]))
  have hrun : ((ofPostings? "Loans:Asha" [small, large] now valueOf "INR" 30).run
      empty).1.toOption.map (fun o => o.map Loan.status) = some (some .active) := by
    decide +kernel
  have hrun' : ((ofPostings? "Loans:Asha" [large, small] now valueOf "INR" 30).run
      empty).1.toOption.map (fun o => o.map Loan.status) = some (some .overdue) := by
    decide +kernel
  obtain ⟨o, s₁, hrun, ho⟩ := exists_of_map_toOption hrun
  obtain ⟨o', t₁, hrun', ho'⟩ := exists_of_map_toOption hrun'
  have hplain := Text.isPlain_ofString "Loans:Asha"
  obtain ⟨s, h⟩ := run_derive?_eq_ok_iff.2
    ⟨exists_fingerprint_inputs hplain [small, large] now, s₁, hrun⟩
  obtain ⟨s', h'⟩ := run_derive?_eq_ok_iff.2
    ⟨exists_fingerprint_inputs hplain [large, small] now, t₁, hrun'⟩
  obtain ⟨l, rfl, hstatus⟩ := Option.map_eq_some_iff.1 ho
  obtain ⟨l', rfl, hstatus'⟩ := Option.map_eq_some_iff.1 ho'
  refine ⟨hfit, .swap small large [], l, s, h, l', s', h', hstatus, hstatus', fun hagrees => ?_⟩
  have hsame : l'.status = l.status := congrArg Progress.status hagrees.progress_eq
  rw [hstatus, hstatus'] at hsame
  cases hsame

end Loan

end Appraisal
