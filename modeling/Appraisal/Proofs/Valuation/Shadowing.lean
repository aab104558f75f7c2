import Appraisal.Proofs.Loan.Listing
import Appraisal.Proofs.Valuation.Validation

/-!
# Shadowed rules

The pattern of a rule and the text that it asks of the note are its selector. Rules of one selector
apply to the same postings, so only the first of them is ever found, and leaving the later ones out
changes neither what postings are worth nor which loans are listed. A validation warns of each
selector that several rules with a pattern have. The main statement: `only_first_is_applied`.
-/

namespace Appraisal

open Outcome Journaled

namespace Rule

/-- What decides whether a rule applies. -/
def selector (r : Rule) : Text × Text := (r.account, r.noteContains)

theorem applies_congr {r r' : Rule} (h : r.selector = r'.selector) (p : Posting) :
    r.applies p = r'.applies p := by
  obtain ⟨haccount, hnote⟩ := Prod.mk.inj h
  unfold applies
  rw [haccount, hnote]

def place? (rules : List Rule) (p : Posting) : Option Nat :=
  rules.findIdx? (fun r => r.applies p)

theorem first?_eq_bind_place? (rules : List Rule) (p : Posting) :
    first? rules p = (place? rules p).bind (rules[·]?) :=
  List.find?_eq_bind_findIdx?_getElem?

/-- Of the rules of one selector only the first is found. -/
theorem selector_ne_of_place? {rules : List Rule} {p : Posting} {i j : Nat} {r r' : Rule}
    (h : place? rules p = some i) (hj : j < i) (hr : rules[j]? = some r)
    (hr' : rules[i]? = some r') : r.selector ≠ r'.selector := by
  obtain ⟨hi, happlies, hbefore⟩ := List.findIdx?_eq_some_iff_getElem.1 h
  obtain ⟨-, rfl⟩ := List.getElem?_eq_some_iff.1 hr
  obtain ⟨-, rfl⟩ := List.getElem?_eq_some_iff.1 hr'
  intro hselector
  rw [← applies_congr hselector] at happlies
  exact hbefore j hj happlies

/-- The rules without the later ones of a selector. -/
def dropLater (s : Text × Text) : List Rule → List Rule
  | [] => []
  | r :: rs =>
      if r.selector = s then r :: rs.filter (fun r' => r'.selector ≠ s) else r :: dropLater s rs

theorem first?_dropLater (s : Text × Text) (rules : List Rule) (p : Posting) :
    first? (dropLater s rules) p = first? rules p := by
  unfold first?
  induction rules with
  | nil => rfl
  | cons r rules ih =>
      unfold dropLater
      by_cases hr : r.selector = s
      · rw [if_pos hr, List.find?_cons, List.find?_cons, List.find?_filter]
        cases happlies : r.applies p with
        | true => rfl
        | false =>
            -- with the first rule of the selector the later ones do not apply either
            refine congrArg (List.find? · rules) (funext fun r' => ?_)
            by_cases hr' : r'.selector = s
            · simp only [applies_congr (hr'.trans hr.symm) p, happlies, Bool.false_eq_true,
                and_false, decide_false]
            · simp only [decide_eq_true hr', true_and, Bool.decide_eq_true]
      · rw [if_neg hr, List.find?_cons, List.find?_cons, ih]

end Rule

/-! ### Warnings -/

namespace Validation

def shadowLine (e : (Text × Text) × Nat) : Text :=
  "account pattern " ++ Text.quoted e.1.1 ++ " (note filter " ++ Text.quoted e.1.2 ++
    ") appears in " ++ intText e.2 ++ " rules; only the first one is ever applied"

example : shadowLine (("A", ""), 2) =
    "account pattern 'A' (note filter '') appears in 2 rules; only the first one is ever applied" :=
  by decide +kernel

def repeatedSelectors (rules : List Rule) : List ((Text × Text) × Nat) :=
  repeated selectorBefore ((rules.filter (!·.account.isEmpty)).map Rule.selector)

theorem shadowWarnings_eq (rules : List Rule) :
    shadowWarnings rules = (repeatedSelectors rules).map shadowLine := rfl

/-- A line on a name is not one on a selector. -/
theorem shadowLine_not_mem_nameWarnings (e : (Text × Text) × Nat) (rules : List Rule) :
    shadowLine e ∉ nameWarnings rules := by
  intro hmem
  obtain ⟨named, -, hline⟩ := List.mem_map.1 hmem
  have hfirst : some (Letter.char 'r') = some (Letter.char 'a') :=
    congrArg (fun t : Text => t.toList.head?) hline
  cases hfirst

section Repeated

variable {κ : Type} [DecidableEq κ] {before : κ → κ → Bool} {ks : List κ}

theorem mem_repeated {e : κ × Nat} :
    e ∈ repeated before ks ↔ 1 < e.2 ∧ e.2 = ks.countP (fun k => k = e.1) := by
  obtain ⟨k, n⟩ := e
  have hcount (k' : κ) : ks.count k' = ks.countP (fun k => k = k') :=
    List.countP_congr (fun k _ => by simp)
  unfold repeated counts
  rw [(perm_sorted _ _).mem_iff, List.mem_filter, List.mem_map]
  simp only [decide_eq_true_eq, ← hcount]
  constructor
  · rintro ⟨⟨k', -, heq⟩, hn⟩
    obtain ⟨rfl, rfl⟩ := Prod.mk.inj heq
    exact ⟨hn, rfl⟩
  · rintro ⟨hn, rfl⟩
    have hk : k ∈ ks := List.count_pos_iff.1 (Nat.zero_lt_of_lt hn)
    exact ⟨⟨k, List.mem_eraseDups.2 hk, rfl⟩, hn⟩

theorem nodup_eraseDups (ks : List κ) : ks.eraseDups.Nodup := by
  induction h : ks.length using Nat.strong_induction_on generalizing ks with
  | _ n ih =>
    cases ks with
    | nil => exact List.nodup_nil
    | cons k ks =>
        rw [List.eraseDups_cons, List.nodup_cons]
        refine ⟨fun hk => ?_, ih _ ?_ _ rfl⟩
        · simpa using (List.mem_filter.1 (List.mem_eraseDups.1 hk)).2
        · rw [← h, List.length_cons]
          exact Nat.lt_succ_of_le (List.length_filter_le _ _)

/-- The keys stand in their order, each once. -/
theorem pairwise_repeated
    (htrans : ∀ a b c, before a b = true → before b c = true → before a c = true)
    (hirrefl : ∀ a, before a a = false)
    (htotal : ∀ a b, before b a = false → a ≠ b → before a b = true) :
    (repeated before ks).Pairwise (fun a b => before a.1 b.1 = true) := by
  have hsorted : (repeated before ks).Pairwise (fun a b => before b.1 a.1 = false) :=
    pairwise_sorted (fun a b c => htrans a.1 b.1 c.1) (fun a => hirrefl a.1) _
  have hcounts : (counts ks).Pairwise (fun a b => a.1 ≠ b.1) :=
    List.pairwise_map.2 (nodup_eraseDups ks)
  have hdistinct : (repeated before ks).Pairwise (fun a b => a.1 ≠ b.1) :=
    (perm_sorted _ _).symm.pairwise (hcounts.filter _) (fun hne => hne.symm)
  exact (hdistinct.and hsorted).imp (fun hab => htotal _ _ hab.2 hab.1)

end Repeated

theorem selectorBefore_iff {a b : Text × Text} :
    selectorBefore a b = true ↔ a.1.before b.1 = true ∨ a.1 = b.1 ∧ a.2.before b.2 = true := by
  simp only [selectorBefore, Bool.or_eq_true, Bool.and_eq_true, beq_iff_eq]

theorem selectorBefore_irrefl (a : Text × Text) : selectorBefore a a = false := by
  simp [selectorBefore, Text.before_irrefl]

theorem selectorBefore_trans (a b c : Text × Text) (hab : selectorBefore a b = true)
    (hbc : selectorBefore b c = true) : selectorBefore a c = true := by
  rw [selectorBefore_iff] at hab hbc ⊢
  rcases hab with hab | ⟨hab, hab'⟩ <;> rcases hbc with hbc | ⟨hbc, hbc'⟩
  · exact .inl (Text.before_trans hab hbc)
  · exact .inl (hbc ▸ hab)
  · exact .inl (hab ▸ hbc)
  · exact .inr ⟨hab.trans hbc, Text.before_trans hab' hbc'⟩

theorem selectorBefore_of_not_before (a b : Text × Text) (h : selectorBefore b a = false)
    (hne : a ≠ b) : selectorBefore a b = true := by
  rw [← Bool.not_eq_true, selectorBefore_iff, not_or, not_and, Bool.not_eq_true,
    Bool.not_eq_true] at h
  rw [selectorBefore_iff]
  by_cases hpattern : a.1 = b.1
  · exact .inr ⟨hpattern, Text.before_of_not_before (h.2 hpattern.symm)
      (fun hnote => hne (Prod.ext hpattern hnote))⟩
  · exact .inl (Text.before_of_not_before h.1 hpattern)

theorem isEmpty_eq_false_iff {t : Text} : t.isEmpty = false ↔ t ≠ "" := by
  unfold Text.isEmpty
  rw [List.isEmpty_eq_false_iff]
  exact not_congr ⟨fun h => Text.ext h, fun h => congrArg Text.toList h⟩

theorem countP_selectors {s : Text × Text} (rules : List Rule) (hs : s.1 ≠ "") :
    ((rules.filter (!·.account.isEmpty)).map Rule.selector).countP (fun k => k = s) =
      rules.countP (fun r => r.selector = s) := by
  rw [List.countP_map, List.countP_filter]
  refine List.countP_congr (fun r _ => ?_)
  simp only [Function.comp_apply, Bool.and_eq_true, decide_eq_true_eq, Bool.not_eq_true',
    isEmpty_eq_false_iff]
  exact and_iff_left_of_imp (fun hr haccount => hs ((congrArg Prod.fst hr).symm.trans haccount))

theorem mem_repeatedSelectors {rules : List Rule} {s : Text × Text} {n : Nat} :
    (s, n) ∈ repeatedSelectors rules ↔
      s.1 ≠ "" ∧ 1 < n ∧ n = rules.countP (fun r => r.selector = s) := by
  unfold repeatedSelectors
  rw [mem_repeated]
  constructor
  · rintro ⟨hn, hcount⟩
    have hs : s.1 ≠ "" := by
      obtain ⟨k, hk, heq⟩ := List.countP_pos_iff.1 (hcount ▸ Nat.zero_lt_of_lt hn)
      obtain ⟨r, hr, rfl⟩ := List.mem_map.1 hk
      obtain rfl : r.selector = s := of_decide_eq_true heq
      have hgiven : r.account.isEmpty = false := by simpa using (List.mem_filter.1 hr).2
      exact isEmpty_eq_false_iff.1 hgiven
    exact ⟨hs, hn, hcount.trans (countP_selectors rules hs)⟩
  · rintro ⟨hs, hn, hcount⟩
    exact ⟨hn, hcount.trans (countP_selectors rules hs).symm⟩

/-- The warnings of a validation. -/
theorem exists_warnings (c : Configuration) :
    ∃ v, Yields (ofConfiguration c) (.ok v) ∧
      v.warnings = nameWarnings c.rules ++ (repeatedSelectors c.rules).map shadowLine := by
  obtain ⟨v, found, hv, -⟩ := exists_ofConfiguration c
  have hwarnings : Ensures (fun v => v.warnings = nameWarnings c.rules ++ shadowWarnings c.rules)
      (ofConfiguration c) :=
    (ensures_true _).bind (fun _ _ => (ensures_true _).bind (fun _ _ => ensures_pure rfl))
  rw [← shadowWarnings_eq]
  exact ⟨v, hv, hwarnings empty v _ (Prod.ext (hv empty) rfl)⟩

end Validation

/-! ### Values -/

theorem Pricing.marketValue_dropLater (s : Text × Text) (rules : List Rule) (p : Posting)
    (instant : Moment) :
    marketValue (Rule.dropLater s rules) p instant = marketValue rules p instant := by
  unfold marketValue
  rw [Rule.first?_dropLater]

/-! ### Lists -/

namespace Loan

variable {t t' : ListingTerms}

theorem attempt_dropLater (s : Text × Text) (t : ListingTerms) :
    attempt { t with rules := Rule.dropLater s t.rules } = attempt t := by
  have hvalue : valueOf (Rule.dropLater s t.rules) t.now = valueOf t.rules t.now := by
    funext p
    unfold valueOf
    rw [Pricing.marketValue_dropLater]
  unfold attempt
  simp only [hvalue]

theorem addAccounts_congr (h : attempt t = attempt t') : addAccounts t = addAccounts t' := by
  funext found accounts
  induction accounts generalizing found with
  | nil => rfl
  | cons q accounts ih => simp only [addAccounts, h, ih]

theorem addAccounts_of_seen {found : Found} {accounts : List (Text × List Posting)}
    (h : ∀ q ∈ accounts, q.1 ∈ found.seen) : addAccounts t found accounts = pure found := by
  induction accounts with
  | nil => rfl
  | cons q accounts ih =>
      rw [List.forall_mem_cons] at h
      rw [addAccounts, if_pos (by simpa using h.1), ih h.2]

/-- Whatever the postings are, their accounts are named in the end. -/
theorem exists_addAccounts (ps : List Posting) (found : Found)
    {accounts : List (Text × List Posting)} (h : ∀ q ∈ accounts, q ∈ byAccount ps) :
    ∃ found', Yields (addAccounts t found accounts) (.ok found') ∧ found.seen ⊆ found'.seen ∧
      ∀ q ∈ accounts, q.1 ∈ found'.seen := by
  induction accounts generalizing found with
  | nil => exact ⟨found, yields_pure found, List.Subset.refl _, by simp⟩
  | cons q accounts ih =>
      obtain ⟨account, group⟩ := q
      rw [List.forall_mem_cons] at h
      obtain ⟨hp, hgroup⟩ := mem_byAccount.1 h.1
      unfold addAccounts
      by_cases hseen : account ∈ found.seen
      · obtain ⟨found', hy, hsub, hall⟩ := ih found h.2
        rw [if_pos (by simpa using hseen)]
        exact ⟨found', hy, hsub, List.forall_mem_cons.2 ⟨hsub hseen, hall⟩⟩
      · obtain ⟨found', hy, hsub, hall⟩ := ih
          ⟨account :: found.seen, found.loans ++ (loanOf? t ps account).toList⟩ h.2
        rw [if_neg (by simpa using hseen)]
        refine ⟨found', ?_, fun a ha => hsub (List.mem_cons_of_mem _ ha),
          List.forall_mem_cons.2 ⟨hsub List.mem_cons_self, hall⟩⟩
        obtain rfl : ps.filter (fun p => p.account = account) = group := hgroup
        exact (yields_attempt hp).bind (g := fun _ => .ok found') (fun o ho => by
          obtain rfl := Except.ok.inj ho
          exact hy)

section

variable {ε : Type} (fault : Fault → ε) {source : Text → Journaled ε (List Posting)}

theorem addRules_congr (h : attempt t = attempt t') :
    addRules fault source t = addRules fault source t' := by
  funext found rules
  induction rules generalizing found with
  | nil => rfl
  | cons r rules ih => simp only [addRules, addAccounts_congr h, ih]

/-- The accounts of the postings that the source gives for a pattern have been named. -/
def Named (source : Text → Journaled ε (List Posting)) (found : Found) (pattern : Text) : Prop :=
  ∃ ps, Yields (source pattern) (.ok ps) ∧
    ∀ q ∈ byAccount (AccountPattern.filter pattern ps), q.1 ∈ found.seen

theorem Named.mono {found found' : Found} {pattern : Text} (h : Named source found pattern)
    (hsub : found.seen ⊆ found'.seen) : Named source found' pattern := by
  obtain ⟨ps, hps, hseen⟩ := h
  exact ⟨ps, hps, fun q hq => hsub (hseen q hq)⟩

variable (t) in
theorem yields_addRules_cons {found found' : Found} {r : Rule} {ps : List Posting}
    {rest : List Rule} {res : Except ε Found} (hr : r.account ≠ "")
    (hps : Yields (source r.account) (.ok ps))
    (hstep : Yields (addAccounts t found (byAccount (AccountPattern.filter r.account ps)))
      (.ok found'))
    (hrest : Yields (addRules fault source t found' rest) res) :
    Yields (addRules fault source t found (r :: rest)) res := by
  rw [addRules, if_neg hr]
  refine hps.bind (g := fun _ => res) (fun ps' hps' => ?_)
  obtain rfl := Except.ok.inj hps'
  refine (hstep.mapFault fault).bind (g := fun _ => res) (fun f hf => ?_)
  obtain rfl := Except.ok.inj hf
  exact hrest

variable (hsource : ∀ pattern, ∃ out, Yields (source pattern) out)
include hsource

variable (t) in
/-- After one rule the rest of the rules may be exchanged, if it may be exchanged once the accounts
of the pattern have been named. -/
theorem exists_yields_addRules_cons {found : Found} (r : Rule) {rest rest' : List Rule}
    (h : ∀ found', found.seen ⊆ found'.seen → (r.account ≠ "" → Named source found' r.account) →
      ∃ res, Yields (addRules fault source t found' rest) res ∧
        Yields (addRules fault source t found' rest') res) :
    ∃ res, Yields (addRules fault source t found (r :: rest)) res ∧
      Yields (addRules fault source t found (r :: rest')) res := by
  by_cases hr : r.account = ""
  · obtain ⟨res, hrest, hrest'⟩ := h found (List.Subset.refl _) (fun hne => absurd hr hne)
    simp only [addRules, if_pos hr]
    exact ⟨res, hrest, hrest'⟩
  · obtain ⟨out, hout⟩ := hsource r.account
    cases out with
    | error e =>
        have hfails (rs : List Rule) :
            Yields (addRules fault source t found (r :: rs)) (.error e) := by
          rw [addRules, if_neg hr]
          exact hout.bind (g := fun _ => .error e) (fun ps hps => by cases hps)
        exact ⟨.error e, hfails rest, hfails rest'⟩
    | ok ps =>
        obtain ⟨found', hstep, hsub, hseen⟩ :=
          exists_addAccounts (t := t) (AccountPattern.filter r.account ps) found (fun q hq => hq)
        obtain ⟨res, hrest, hrest'⟩ := h found' hsub (fun _ => ⟨ps, hout, hseen⟩)
        exact ⟨res, yields_addRules_cons t fault hr hout hstep hrest,
          yields_addRules_cons t fault hr hout hstep hrest'⟩

variable (t) in
/-- Rules whose patterns give accounts that have been named can be left out. -/
theorem exists_yields_addRules_filter {keep : Rule → Bool} {found : Found} {rules : List Rule}
    (h : ∀ r ∈ rules, keep r = false → r.account ≠ "" → Named source found r.account) :
    ∃ res, Yields (addRules fault source t found rules) res ∧
      Yields (addRules fault source t found (rules.filter keep)) res := by
  induction rules generalizing found with
  | nil => exact ⟨.ok found, yields_pure found, yields_pure found⟩
  | cons r rules ih =>
      rw [List.forall_mem_cons] at h
      obtain ⟨hr, hrest⟩ := h
      cases hkeep : keep r with
      | true =>
          rw [List.filter_cons_of_pos hkeep]
          exact exists_yields_addRules_cons t fault hsource r (fun found' hsub _ =>
            ih (fun r' hr' hk hne => (hrest r' hr' hk hne).mono hsub))
      | false =>
          rw [List.filter_cons_of_neg (ne_true_of_eq_false hkeep)]
          obtain ⟨res, hall, hkept⟩ := ih hrest
          refine ⟨res, ?_, hkept⟩
          by_cases haccount : r.account = ""
          · rwa [addRules, if_pos haccount]
          · obtain ⟨ps, hps, hseen⟩ := hr hkeep haccount
            refine yields_addRules_cons t fault haccount hps ?_ hall
            rw [addAccounts_of_seen hseen]
            exact yields_pure found

variable (t) in
theorem exists_yields_addRules_dropLater (s : Text × Text) (found : Found) (rules : List Rule) :
    ∃ res, Yields (addRules fault source t found rules) res ∧
      Yields (addRules fault source t found (Rule.dropLater s rules)) res := by
  induction rules generalizing found with
  | nil => exact ⟨.ok found, yields_pure found, yields_pure found⟩
  | cons r rules ih =>
      unfold Rule.dropLater
      by_cases hr : r.selector = s
      · rw [if_pos hr]
        refine exists_yields_addRules_cons t fault hsource r (fun found' _ hnamed => ?_)
        refine exists_yields_addRules_filter t fault hsource (fun r' _ hdropped hne => ?_)
        have hsame : r'.selector = r.selector := by simpa [← hr] using hdropped
        have haccount : r'.account = r.account := congrArg Prod.fst hsame
        rw [haccount] at hne ⊢
        exact hnamed hne
      · rw [if_neg hr]
        exact exists_yields_addRules_cons t fault hsource r (fun found' _ _ => ih found')

/-- The later rules of a selector do not change a list. -/
theorem exists_yields_list_dropLater (s : Text × Text) (t : ListingTerms) :
    ∃ res, Yields (list fault source t) res ∧
      Yields (list fault source { t with rules := Rule.dropLater s t.rules }) res := by
  obtain ⟨res, hall, hkept⟩ := exists_yields_addRules_dropLater t fault hsource s ⟨[], []⟩ t.rules
  rw [← addRules_congr fault (attempt_dropLater s t)] at hkept
  have hlist (terms : ListingTerms)
      (h : Yields (addRules fault source terms ⟨[], []⟩ terms.rules) res) :
      Yields (list fault source terms) (res >>= fun found => .ok (listed found.loans)) :=
    h.bind (fun found _ => (yields_note _ _ _ _ _).bind (g := fun _ => .ok (listed found.loans))
      (fun _ _ => yields_pure _))
  exact ⟨_, hlist t hall, hlist _ hkept⟩

end

end Loan

/-! ### Shadowing -/

namespace Validation

/-- A validation warns, in their order, of just the selectors with a pattern that several rules
have, once of each. Of the rules of a selector only the first is ever found for a posting. Leaving
out the later ones changes neither what a posting is worth nor the list of loans, whatever source
the postings come from. -/
theorem only_first_is_applied (c : Configuration) :
    (∃ (v : Validation) (found : List ((Text × Text) × Nat)),
      Yields (ofConfiguration c) (.ok v) ∧
      v.warnings = nameWarnings c.rules ++ found.map shadowLine ∧
      (∀ e, shadowLine e ∉ nameWarnings c.rules) ∧
      found.Pairwise (fun a b => selectorBefore a.1 b.1 = true) ∧
      ∀ s n, (s, n) ∈ found ↔
        s.1 ≠ ("" : Text) ∧ 1 < n ∧ n = c.rules.countP (fun r => r.selector = s)) ∧
    (∀ p, Rule.first? c.rules p = (Rule.place? c.rules p).bind (c.rules[·]?) ∧
      ∀ i j r r', Rule.place? c.rules p = some i → j < i → c.rules[j]? = some r →
        c.rules[i]? = some r' → r.selector ≠ r'.selector) ∧
    ∀ s, (∀ p instant, Pricing.marketValue (Rule.dropLater s c.rules) p instant =
        Pricing.marketValue c.rules p instant) ∧
      ∀ {ε : Type} (fault : Fault → ε) (source : Text → Journaled ε (List Posting))
        (t : Loan.ListingTerms), t.rules = c.rules →
        (∀ pattern, ∃ out, Yields (source pattern) out) →
        ∃ res, Yields (Loan.list fault source t) res ∧
          Yields (Loan.list fault source { t with rules := Rule.dropLater s c.rules }) res := by
  refine ⟨?_, fun p => ⟨Rule.first?_eq_bind_place? c.rules p, fun i j r r' hplace hj hr hr' =>
    Rule.selector_ne_of_place? hplace hj hr hr'⟩, fun s => ⟨fun p instant =>
      Pricing.marketValue_dropLater s c.rules p instant, ?_⟩⟩
  · obtain ⟨v, hv, hwarnings⟩ := exists_warnings c
    exact ⟨v, repeatedSelectors c.rules, hv, hwarnings,
      fun e => shadowLine_not_mem_nameWarnings e c.rules,
      pairwise_repeated selectorBefore_trans selectorBefore_irrefl selectorBefore_of_not_before,
      fun s n => mem_repeatedSelectors⟩
  · intro ε fault source t hrules hsource
    rw [← hrules]
    exact Loan.exists_yields_list_dropLater fault hsource s t

theorem only_first_is_applied_of_two :
    let first : Rule := ⟨"as lent", "Loans:*", "amount", ""⟩
    let later : Rule := ⟨"doubled", "Loans:*", "amount * 2", ""⟩
    let c : Configuration := ⟨"INR", [first, ⟨"asha", "Loans:Asha", "amount", ""⟩, later], ""⟩
    let asha : Posting :=
      ⟨"Loans:Asha", .finite false 100 0, .newYear2024, .one, "", "", "INR", by decide⟩
    let source : Text → Journaled Fault (List Posting) := fun _ => pure [asha]
    let t : Loan.ListingTerms := ⟨c.rules, ⟨.newYear2024, 0, none, by decide⟩, "INR", 30⟩
    (∀ pattern, ∃ out, Yields (source pattern) out) ∧
      (∃ v, Yields (ofConfiguration c) (.ok v) ∧ shadowLine (later.selector, 2) ∈ v.warnings) ∧
      (Rule.dropLater later.selector c.rules).map Rule.name = ["as lent", "asha"] ∧
      ∃ res, Yields (Loan.list id source t) res ∧
        Yields (Loan.list id source { t with rules := Rule.dropLater later.selector c.rules })
          res := by
  intro first later c asha source t
  have hsource : ∀ pattern, ∃ out, Yields (source pattern) out := fun _ => ⟨_, yields_pure [asha]⟩
  obtain ⟨⟨v, found, hv, hwarnings, -, -, hfound⟩, -, hlist⟩ := only_first_is_applied c
  have hmem : (later.selector, 2) ∈ found :=
    (hfound later.selector 2).2 ⟨by decide, by decide, by decide⟩
  refine ⟨hsource, ⟨v, hv, ?_⟩, by decide, (hlist later.selector).2 id source t rfl hsource⟩
  rw [hwarnings]
  exact List.mem_append_right _ (List.mem_map.2 ⟨_, hmem, rfl⟩)

end Validation

end Appraisal
