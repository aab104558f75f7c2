import Mathlib.Data.List.Lex
import Mathlib.Data.List.Nodup
import Appraisal.Proofs.Loan.Derivation

/-!
# The listed loans

A list of loans holds one loan for each account that has postings, that some rule with a pattern
matches and whose loan can be derived. Each is the loan of all postings of its account, whichever
rule has found it and whatever becomes of other accounts.
-/

namespace Appraisal.Loan

open Outcome Journaled

variable (t : ListingTerms) (P : List Posting)

def derivation (account : Text) : Except Fault (Option Loan) :=
  (derive? account (P.filter (fun p => p.account = account)) t.now (valueOf t.rules t.now)
    t.currency t.window).result

def loanOf? (account : Text) : Option Loan :=
  (derivation t P account).toOption.bind id

/-- The accounts that were named are distinct, and the loans found are those of these accounts. -/
structure Tracked (found : Found) : Prop where
  nodup : found.seen.Nodup
  loans_eq : found.loans = found.seen.reverse.filterMap (loanOf? t P)

variable {t P}

theorem filter_ne_nil {account : Text} (h : ∃ p ∈ P, p.account = account) :
    P.filter (fun p => p.account = account) ≠ [] := by
  obtain ⟨p, hp, ha⟩ := h
  exact List.ne_nil_of_mem (List.mem_filter.2 ⟨hp, by simpa using ha⟩)

theorem derivation_eq_ok_or_error {account : Text} (h : ∃ p ∈ P, p.account = account) :
    (∃ l, derivation t P account = .ok (some l) ∧ l.account = account) ∨
      ∃ e, derivation t P account = .error e ∧ isTolerated e = true := by
  have hsound : Sound Fault.IsTolerable (fun o => ∃ l : Loan, o = some l ∧ l.account = account)
      (derivation t P account) :=
    (settles_derive? account (filter_ne_nil h) t.now t.rules t.currency t.window).result.2
  cases hd : derivation t P account with
  | ok o =>
      rw [hd] at hsound
      obtain ⟨l, rfl, hl⟩ := hsound
      exact .inl ⟨l, rfl, hl⟩
  | error e =>
      rw [hd] at hsound
      exact .inr ⟨e, rfl, isTolerated_iff.2 hsound⟩

theorem loanOf?_eq_some_iff {account : Text} {l : Loan} :
    loanOf? t P account = some l ↔ derivation t P account = .ok (some l) := by
  unfold loanOf?
  cases derivation t P account with
  | ok o => simp [Except.toOption]
  | error e => simp [Except.toOption]

/-! ### One account -/

theorem yields_attempt {account : Text} (h : ∃ p ∈ P, p.account = account) :
    Yields (attempt t account (P.filter (fun p => p.account = account)))
      (.ok (loanOf? t P account)) := by
  have hderive : Yields (derive? account (P.filter (fun p => p.account = account)) t.now
      (valueOf t.rules t.now) t.currency t.window) (derivation t P account) :=
    (settles_derive? account (filter_ne_nil h) t.now t.rules t.currency t.window).result.1
  refine Yields.bound ?_ _
  refine (hderive.outcome (δ := Fault)).bind (g := fun _ => .ok (loanOf? t P account)) ?_
  intro o ho
  obtain rfl := Except.ok.inj ho
  rcases derivation_eq_ok_or_error (t := t) h with ⟨l, hl, -⟩ | ⟨e, he, htol⟩
  · rw [hl, loanOf?_eq_some_iff.2 hl]
    exact yields_pure (some l)
  · have hnone : loanOf? t P account = none := by simp [loanOf?, he, Except.toOption]
    rw [he, hnone]
    simp only [htol, if_true]
    exact (yields_note _ _ _ _ _).bind (g := fun _ => .ok none) (fun _ _ => yields_pure none)

/-! ### Accounts -/

theorem mem_byAccount {ps : List Posting} {q : Text × List Posting} :
    q ∈ byAccount ps ↔
      (∃ p ∈ ps, p.account = q.1) ∧ ps.filter (fun p => p.account = q.1) = q.2 := by
  obtain ⟨account, group⟩ := q
  unfold byAccount
  rw [List.mem_map]
  constructor
  · rintro ⟨a, ha, heq⟩
    obtain ⟨rfl, rfl⟩ := Prod.mk.inj heq
    exact ⟨List.mem_map.1 (List.mem_eraseDups.1 ha), rfl⟩
  · rintro ⟨hp, hg⟩
    exact ⟨account, List.mem_eraseDups.2 (List.mem_map.2 hp), Prod.ext rfl hg⟩

theorem tracked_seen {found : Found} (h : Tracked t P found) {account : Text}
    (hnew : account ∉ found.seen) :
    Tracked t P ⟨account :: found.seen, found.loans ++ (loanOf? t P account).toList⟩ where
  nodup := List.nodup_cons.2 ⟨hnew, h.nodup⟩
  loans_eq := by
    rw [List.reverse_cons, List.filterMap_append, ← h.loans_eq]
    cases hl : loanOf? t P account <;> simp [hl]

/-- Naming accounts with all their postings keeps what is tracked, and names just these accounts. -/
theorem yields_addAccounts {found : Found} (h : Tracked t P found)
    {accounts : List (Text × List Posting)}
    (hall : ∀ q ∈ accounts, (∃ p ∈ P, p.account = q.1) ∧
      P.filter (fun p => p.account = q.1) = q.2) :
    ∃ found', Yields (addAccounts t found accounts) (.ok found') ∧ Tracked t P found' ∧
      ∀ a, a ∈ found'.seen ↔ a ∈ found.seen ∨ ∃ q ∈ accounts, q.1 = a := by
  induction accounts generalizing found with
  | nil => exact ⟨found, yields_pure found, h, by simp⟩
  | cons q accounts ih =>
      obtain ⟨account, ps⟩ := q
      rw [List.forall_mem_cons] at hall
      obtain ⟨⟨hp, hps⟩, hrest⟩ := hall
      obtain rfl : P.filter (fun p => p.account = account) = ps := hps
      unfold addAccounts
      by_cases hseen : account ∈ found.seen
      · obtain ⟨found', hy, ht, hmem⟩ := ih h hrest
        rw [if_pos (by simpa using hseen)]
        refine ⟨found', hy, ht, fun a => ?_⟩
        rw [hmem, List.exists_mem_cons_iff, ← or_assoc]
        exact or_congr_left ⟨.inl, fun ha => ha.elim id (fun he => he ▸ hseen)⟩
      · obtain ⟨found', hy, ht, hmem⟩ := ih (tracked_seen h hseen) hrest
        rw [if_neg (by simpa using hseen)]
        refine ⟨found', ?_, ht, fun a => ?_⟩
        · exact (yields_attempt hp).bind (g := fun _ => .ok found') (fun o ho => by
            obtain rfl := Except.ok.inj ho
            exact hy)
        · rw [hmem, List.exists_mem_cons_iff, ← or_assoc, List.mem_cons]
          exact or_congr_left
            ⟨fun ha => ha.symm.imp_right Eq.symm, fun ha => ha.symm.imp_left Eq.symm⟩

/-! ### Rules -/

section

variable {ε : Type} (source : Text → Journaled ε (List Posting))

/-- The source gives, for a pattern, some of the postings in their order, and all whose accounts the
pattern matches are among them. -/
def Answers (P : List Posting) (pattern : Text) : Prop :=
  ∀ s, ∃ ps s', (source pattern).run s = (.ok ps, s') ∧ ps.Sublist P ∧
    (AccountPattern.filter pattern P).Sublist ps

def Covers (P : List Posting) : Prop := ∀ pattern, Answers source P pattern

variable {source}

theorem filter_eq_of_sublist {pattern : Text} {ps : List Posting} (h : ps.Sublist P)
    (hall : (AccountPattern.filter pattern P).Sublist ps) :
    AccountPattern.filter pattern ps = AccountPattern.filter pattern P := by
  refine (h.filter _).antisymm ?_
  have hagain := hall.filter (fun p => AccountPattern.accepts pattern p.account)
  simpa only [AccountPattern.filter, List.filter_filter, Bool.and_self] using hagain

theorem group_eq {pattern account : Text}
    (h : ∃ p ∈ AccountPattern.filter pattern P, p.account = account) :
    (AccountPattern.filter pattern P).filter (fun p => p.account = account) =
      P.filter (fun p => p.account = account) := by
  obtain ⟨p, hp, rfl⟩ := h
  have haccepts := (List.mem_filter.1 hp).2
  unfold AccountPattern.filter
  rw [List.filter_filter]
  refine List.filter_congr (fun q _ => ?_)
  by_cases hq : q.account = p.account
  · simp [hq, haccepts]
  · simp [hq]

/-- The postings of an account that a pattern matches are all of its postings. -/
theorem group_of_mem_byAccount {pattern : Text} {q : Text × List Posting}
    (h : q ∈ byAccount (AccountPattern.filter pattern P)) :
    (∃ p ∈ P, p.account = q.1) ∧ P.filter (fun p => p.account = q.1) = q.2 := by
  obtain ⟨hp, hg⟩ := mem_byAccount.1 h
  rw [group_eq hp] at hg
  obtain ⟨p, hp, ha⟩ := hp
  exact ⟨⟨p, (List.mem_filter.1 hp).1, ha⟩, hg⟩

theorem exists_byAccount_iff {pattern account : Text} :
    (∃ q ∈ byAccount (AccountPattern.filter pattern P), q.1 = account) ↔
      ∃ p ∈ P, p.account = account ∧ AccountPattern.accepts pattern account = true := by
  constructor
  · rintro ⟨q, hq, rfl⟩
    obtain ⟨⟨p, hp, ha⟩, -⟩ := mem_byAccount.1 hq
    obtain ⟨hpP, haccepts⟩ := List.mem_filter.1 hp
    exact ⟨p, hpP, ha, ha ▸ haccepts⟩
  · rintro ⟨p, hp, rfl, haccepts⟩
    have hgroup := @mem_byAccount (AccountPattern.filter pattern P)
      (p.account, (AccountPattern.filter pattern P).filter (fun q => q.account = p.account))
    exact ⟨_, hgroup.2 ⟨⟨p, List.mem_filter.2 ⟨hp, haccepts⟩, rfl⟩, rfl⟩, rfl⟩

variable (fault : Fault → ε)

/-- A rule with a pattern names the accounts of postings that the pattern matches. -/
theorem yields_rule {found : Found} (h : Tracked t P found) {r : Rule}
    (hsource : Answers source P r.account) :
    ∃ found', Yields (do
      let candidates ← source r.account
      mapFault fault (addAccounts t found
        (byAccount (AccountPattern.filter r.account candidates)))) (.ok found') ∧
      Tracked t P found' ∧ ∀ a, a ∈ found'.seen ↔ a ∈ found.seen ∨
        ∃ p ∈ P, p.account = a ∧ AccountPattern.accepts r.account a = true := by
  obtain ⟨found', hy, ht, hmem⟩ :=
    yields_addAccounts h (fun q hq => @group_of_mem_byAccount P r.account q hq)
  refine ⟨found', yields_bind_of_run (fun s => ?_), ht, fun a => ?_⟩
  · obtain ⟨ps, s', hrun, hsub, hin⟩ := hsource s
    refine ⟨ps, s', hrun, ?_⟩
    rw [filter_eq_of_sublist hsub hin]
    exact hy.mapFault fault
  · rw [hmem, exists_byAccount_iff]

/-- Taking the rules in turn keeps what is tracked. The accounts named in the end are those that
were named before and those of postings that a rule with a pattern matches. -/
theorem yields_addRules_of_answers {found : Found} (h : Tracked t P found) {rules : List Rule}
    (hsource : ∀ r ∈ rules, r.account ≠ "" → Answers source P r.account) :
    ∃ found', Yields (addRules fault source t found rules) (.ok found') ∧ Tracked t P found' ∧
      ∀ a, a ∈ found'.seen ↔ a ∈ found.seen ∨ ((∃ p ∈ P, p.account = a) ∧
        ∃ r ∈ rules, r.account ≠ "" ∧ AccountPattern.accepts r.account a = true) := by
  induction rules generalizing found with
  | nil => exact ⟨found, yields_pure found, h, by simp⟩
  | cons r rules ih =>
      rw [List.forall_mem_cons] at hsource
      unfold addRules
      by_cases hr : r.account = ""
      · obtain ⟨found', hy, ht, hmem⟩ := ih h hsource.2
        rw [if_pos hr]
        refine ⟨found', hy, ht, fun a => ?_⟩
        simp [hmem, hr]
      · obtain ⟨found₁, hy₁, ht₁, hmem₁⟩ := yields_rule fault h (hsource.1 hr)
        obtain ⟨found', hy, ht, hmem⟩ := ih ht₁ hsource.2
        rw [if_neg hr]
        refine ⟨found', ?_, ht, fun a => ?_⟩
        · rw [← bind_assoc]
          refine hy₁.bind (g := fun _ => .ok found') (fun f hf => ?_)
          obtain rfl := Except.ok.inj hf
          exact hy
        · rw [hmem, hmem₁, List.exists_mem_cons_iff, or_assoc, and_or_left]
          refine or_congr_right (or_congr_left ⟨?_, ?_⟩)
          · rintro ⟨p, hp, ha, hacc⟩
            exact ⟨⟨p, hp, ha⟩, hr, hacc⟩
          · rintro ⟨⟨p, hp, ha⟩, -, hacc⟩
            exact ⟨p, hp, ha, hacc⟩

theorem yields_addRules {found : Found} (h : Tracked t P found) (hsource : Covers source P)
    (rules : List Rule) :
    ∃ found', Yields (addRules fault source t found rules) (.ok found') ∧ Tracked t P found' ∧
      ∀ a, a ∈ found'.seen ↔ a ∈ found.seen ∨ ((∃ p ∈ P, p.account = a) ∧
        ∃ r ∈ rules, r.account ≠ "" ∧ AccountPattern.accepts r.account a = true) :=
  yields_addRules_of_answers fault h (fun r _ _ => hsource r.account)

end

/-! ### The order of a list -/

theorem before_iff {a b : Loan} :
    a.before b = true ↔ a.status.rank < b.status.rank ∨
      a.status.rank = b.status.rank ∧ a.account.before b.account = true := by
  simp only [before, Bool.or_eq_true, Bool.and_eq_true, decide_eq_true_eq, beq_iff_eq]

theorem before_irrefl (l : Loan) : l.before l = false := by
  simp [before, Text.before_irrefl]

theorem before_trans (a b c : Loan) (hab : a.before b = true) (hbc : b.before c = true) :
    a.before c = true := by
  rw [before_iff] at hab hbc ⊢
  rcases hab with hab | ⟨hab, haccount⟩
  · exact .inl (by omega)
  · rcases hbc with hbc | ⟨hbc, haccount'⟩
    · exact .inl (by omega)
    · exact .inr ⟨hab.trans hbc, Text.before_trans haccount haccount'⟩

theorem before_of_not_before {a b : Loan} (h : b.before a = false) (hne : a.account ≠ b.account) :
    a.before b = true := by
  rw [← Bool.not_eq_true, before_iff, not_or, not_and, Bool.not_eq_true] at h
  obtain ⟨hrank, haccount⟩ := h
  rw [before_iff]
  rcases Nat.lt_or_eq_of_le (Nat.not_lt.1 hrank) with hlt | heq
  · exact .inl hlt
  · exact .inr ⟨heq, Text.before_of_not_before (haccount heq.symm) hne⟩

/-! ### Lists -/

/-- The account of a derived loan is the one that it was derived for. -/
theorem account_of_derivation {a : Text} {l : Loan} (ha : ∃ p ∈ P, p.account = a)
    (h : derivation t P a = .ok (some l)) : l.account = a := by
  rcases derivation_eq_ok_or_error (t := t) ha with ⟨l', hl, haccount⟩ | ⟨e, he, -⟩
  · rw [hl] at h
    obtain rfl := Option.some.inj (Except.ok.inj h)
    exact haccount
  · rw [he] at h
    simp at h

theorem mem_loans_iff {found : Found} (h : Tracked t P found)
    (hseen : ∀ a ∈ found.seen, ∃ p ∈ P, p.account = a) {l : Loan} :
    l ∈ found.loans ↔ l.account ∈ found.seen ∧ derivation t P l.account = .ok (some l) := by
  rw [h.loans_eq, List.mem_filterMap]
  simp only [List.mem_reverse, loanOf?_eq_some_iff]
  constructor
  · rintro ⟨a, ha, hd⟩
    obtain rfl := account_of_derivation (hseen a ha) hd
    exact ⟨ha, hd⟩
  · exact fun hl => ⟨l.account, hl⟩

theorem pairwise_accounts {found : Found} (h : Tracked t P found)
    (hseen : ∀ a ∈ found.seen, ∃ p ∈ P, p.account = a) :
    found.loans.Pairwise (fun a b => a.account ≠ b.account) := by
  rw [h.loans_eq, List.pairwise_filterMap]
  have hnodup : found.seen.reverse.Nodup := List.nodup_reverse.2 h.nodup
  refine List.Pairwise.imp_of_mem (fun {a b} ha hb hne l hl m hm => ?_) hnodup
  rw [account_of_derivation (hseen a (List.mem_reverse.1 ha)) (loanOf?_eq_some_iff.1 hl),
    account_of_derivation (hseen b (List.mem_reverse.1 hb)) (loanOf?_eq_some_iff.1 hm)]
  exact hne

/-- A list ends with the loans found, in their order. -/
theorem yields_list {ε : Type} {fault : Fault → ε} {source : Text → Journaled ε (List Posting)}
    {found : Found} (h : Yields (addRules fault source t ⟨[], []⟩ t.rules) (.ok found)) :
    Yields (list fault source t) (.ok (listed found.loans)) := by
  refine h.bind (g := fun _ => .ok (listed found.loans)) (fun f hf => ?_)
  obtain rfl := Except.ok.inj hf
  exact (yields_note _ _ _ _ _).bind (g := fun _ => .ok (listed found.loans))
    (fun _ _ => yields_pure _)

theorem mem_listed {loans : List Loan} {l : Loan} : l ∈ listed loans ↔ l ∈ loans :=
  (perm_sorted before loans).mem_iff

theorem pairwise_listed {loans : List Loan}
    (h : loans.Pairwise (fun a b => a.account ≠ b.account)) :
    (listed loans).Pairwise (fun a b => a.account ≠ b.account ∧ a.before b = true) := by
  have hsorted := pairwise_sorted before_trans before_irrefl loans
  have hdistinct : (listed loans).Pairwise (fun a b => a.account ≠ b.account) :=
    (perm_sorted before loans).symm.pairwise h (fun hne => hne.symm)
  exact (hdistinct.and hsorted).imp (fun hab => ⟨hab.1, before_of_not_before hab.2 hab.1⟩)

end Appraisal.Loan
