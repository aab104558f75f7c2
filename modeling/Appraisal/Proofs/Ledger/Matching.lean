import Appraisal.Proofs.Ledger.Selection
import Appraisal.Proofs.Text.Expression
import Appraisal.Valuation.Configuration

/-!
# What a pattern matches

The stars of a pattern cut it into pieces. It matches an account exactly if the account is made of these
pieces, in their order, with any run of letters between each two. The match can be written as an
expression of escaped pieces; a pattern without a star can be compared instead. All of this is one
relation, by which postings are kept and rules apply.
-/

namespace Appraisal

open Text

/-! ### Wildcards -/

namespace Text.Wildcard

variable {α : Type}

/-- The pieces in their order, with one run between each two. -/
def woven : List (List α) → List (List α) → List α
  | [], _ => []
  | piece :: pieces, runs => piece ++ (List.zipWith (· ++ ·) runs pieces).flatten

theorem woven_cons_cons (piece next run : List α) (pieces runs : List (List α)) :
    woven (piece :: next :: pieces) (run :: runs) = piece ++ run ++ woven (next :: pieces) runs := by
  simp [woven]

theorem matchesAll_map_exactly_append [DecidableEq α] {p : List (Wildcard α)} {s : List α} (w : List α) :
    matchesAll (· == ·) (w.map .exactly ++ p) s = true ↔
      ∃ t, s = w ++ t ∧ matchesAll (· == ·) p t = true := by
  constructor
  · exact eq_append_of_matchesAll_exactly
  · rintro ⟨t, rfl, ht⟩
    exact matchesAll_map_append beq_self_eq_true (fun _ => .inr (.inr rfl)) ht w

/-- Pieces with a wildcard between each two match what is woven of them. -/
theorem matchesAll_intercalate [DecidableEq α] {pieces : List (List α)} (hne : pieces ≠ []) {s : List α} :
    matchesAll (· == ·) ([.anyRun].intercalate (pieces.map (List.map .exactly))) s = true ↔
      ∃ runs, runs.length + 1 = pieces.length ∧ s = woven pieces runs := by
  induction pieces generalizing s with
  | nil => exact absurd rfl hne
  | cons piece rest ih =>
      cases rest with
      | nil =>
          have hpiece := @matchesAll_map_exactly_append α _ [] s piece
          rw [List.append_nil] at hpiece
          rw [List.map_singleton, List.intercalate_singleton, hpiece]
          simp [matchesAll, woven]
      | cons next rest =>
          have hrest {t : List α} := @ih (List.cons_ne_nil next rest) t
          rw [List.map_cons] at hrest
          rw [List.map_cons, List.map_cons, List.intercalate_cons_cons, List.append_assoc,
            matchesAll_map_exactly_append]
          simp only [List.singleton_append, matchesAll, someEnd_eq_true_iff, hrest]
          -- the first run is what the wildcard skips before the rest is matched
          constructor
          · rintro ⟨_, rfl, run, _, rfl, runs, hlength, rfl⟩
            refine ⟨run :: runs, by simpa using hlength, ?_⟩
            rw [woven_cons_cons, List.append_assoc]
          · rintro ⟨runs, hlength, rfl⟩
            cases runs with
            | nil => simp at hlength
            | cons run runs =>
                refine ⟨_, ?_, run, _, rfl, runs, by simpa using hlength, rfl⟩
                rw [woven_cons_cons, List.append_assoc]

end Text.Wildcard

open Text.Wildcard

namespace AccountPattern

def pieces (pattern : Text) : List (List Letter) := partsAt star pattern.toList

/-- An account is woven of the pieces of a pattern. -/
def Matches (pattern account : Text) : Prop :=
  ∃ runs, runs.length + 1 = (pieces pattern).length ∧ account.toList = woven (pieces pattern) runs

theorem map_symbol_eq_intercalate (pattern : Text) :
    pattern.toList.map symbol = [.anyRun].intercalate ((pieces pattern).map (List.map .exactly)) := by
  have hpieces : (pieces pattern).map (List.map symbol) =
      (pieces pattern).map (List.map Wildcard.exactly) := by
    apply List.map_congr_left
    intro piece hpiece
    apply List.map_congr_left
    intro l hl
    have hne : l ≠ star := by
      rintro rfl
      exact not_mem_of_mem_partsAt hpiece hl
    rw [symbol, if_neg hne]
  calc pattern.toList.map symbol
      = ([star].intercalate (pieces pattern)).map symbol := by
        rw [pieces, intercalate_partsAt]
    _ = [.anyRun].intercalate ((pieces pattern).map (List.map symbol)) :=
        map_intercalate symbol [star] (pieces pattern)
    _ = [.anyRun].intercalate ((pieces pattern).map (List.map .exactly)) := by rw [hpieces]

theorem accepts_iff_matches {pattern account : Text} :
    accepts pattern account = true ↔ Matches pattern account := by
  have hne : pieces pattern ≠ [] := by
    intro hnil
    have hlength := length_partsAt star pattern.toList
    rw [← pieces, hnil] at hlength
    cases hlength
  rw [accepts, map_symbol_eq_intercalate]
  exact matchesAll_intercalate hne

instance (pattern : Text) : DecidablePred (Matches pattern) :=
  fun _ => decidable_of_iff _ accepts_iff_matches

/-- A pattern without a star is the only account that it matches. -/
theorem matches_iff_eq {pattern account : Text} (h : star ∉ pattern.toList) :
    Matches pattern account ↔ account = pattern := by
  have hone : pieces pattern = [pattern.toList] := by
    rw [pieces, partsAt_eq_splitOn]
    exact List.splitOn_eq_singleton h
  unfold Matches
  rw [hone]
  constructor
  · rintro ⟨runs, -, h⟩
    exact Text.ext (by simpa [woven] using h)
  · rintro rfl
    exact ⟨[], rfl, by simp [woven]⟩

/-! ### Expressions -/

def expression (pattern : Text) : List Letter :=
  [Expression.point, Expression.star].intercalate ((pieces pattern).map Expression.escaped)

/-- How accounts are tested one by one: they are compared with a pattern without a star, and are
matched as a whole by the expression of any other pattern, if it can be read. -/
def test? (pattern : Text) : Option (Text → Bool) :=
  if pattern.toList.contains star then
    (Expression.read? (expression pattern)).map
      (fun p account => matchesAll (· == ·) p account.toList)
  else some (fun account => account = pattern)

theorem read?_expression (pattern : Text) :
    Expression.read? (expression pattern) = some (pattern.toList.map symbol) := by
  rw [map_symbol_eq_intercalate]
  exact Expression.read?_intercalate (pieces pattern)

theorem test?_eq (pattern : Text) : test? pattern = some (accepts pattern) := by
  unfold test?
  by_cases h : star ∈ pattern.toList
  · rw [if_pos (List.contains_iff_mem.2 h), read?_expression]
    rfl
  · rw [if_neg (fun hcontains => h (List.contains_iff_mem.1 hcontains))]
    congr
    funext account
    rw [Bool.eq_iff_iff, accepts_iff_matches, matches_iff_eq h, decide_eq_true_iff]

/-! ### Postings -/

/-- What a pattern means. Its pieces are what stands between its stars, and the accounts that it matches
are woven of them; the tests of accounts come to the same, and of any postings just those of these
accounts are kept, each where it stands. -/
structure IsWildcard (pattern : Text) : Prop where
  length_pieces : (pieces pattern).length = pattern.toList.count star + 1
  star_notMem : ∀ piece ∈ pieces pattern, star ∉ piece
  intercalate_pieces : [star].intercalate (pieces pattern) = pattern.toList
  accepts_iff : ∀ account, accepts pattern account = true ↔ Matches pattern account
  literal : star ∈ pattern.toList ∨ ∀ account, accepts pattern account = true ↔ account = pattern
  test : test? pattern = some (accepts pattern)
  filter : ∀ ps, filter pattern ps = ps.filter (fun p => Matches pattern p.account)

theorem isWildcard (pattern : Text) : IsWildcard pattern where
  length_pieces := length_partsAt star pattern.toList
  star_notMem := fun _ h => not_mem_of_mem_partsAt h
  intercalate_pieces := intercalate_partsAt star pattern.toList
  accepts_iff := fun _ => accepts_iff_matches
  literal := by
    by_cases h : star ∈ pattern.toList
    · exact .inl h
    · exact .inr (fun _ => accepts_iff_matches.trans (matches_iff_eq h))
  test := test?_eq pattern
  filter := by
    intro ps
    apply List.filter_congr
    intro p _
    rw [Bool.eq_iff_iff, accepts_iff_matches, decide_eq_true_iff]

end AccountPattern

open AccountPattern

def Rule.admits (r : Rule) (p : Posting) : Bool :=
  r.noteContains == "" || Note.contains p.transactionNote r.noteContains

/-- Patterns are matched as wildcards, and rules apply by the same relation by which postings are kept:
a rule values those of the kept postings that it admits. -/
theorem accounts_match_woven :
    (∀ pattern, IsWildcard pattern) ∧
    (∀ (r : Rule) (p : Posting),
      r.applies p = true ↔ r.account ≠ "" ∧ Matches r.account p.account ∧ r.admits p = true) ∧
    ∀ (r : Rule) (ps : List Posting),
      ps.filter r.applies =
        if r.account = "" then [] else (AccountPattern.filter r.account ps).filter r.admits := by
  refine ⟨isWildcard, ?_, ?_⟩
  · intro r p
    unfold Rule.applies
    rw [Bool.and_eq_true, Bool.and_eq_true, accepts_iff_matches, bne_iff_ne, and_assoc]
    rfl
  · intro r ps
    unfold Rule.applies
    by_cases h : r.account = ""
    · rw [if_pos h]
      apply List.filter_eq_nil_iff.2
      intro p _
      simp [h]
    · rw [if_neg h, AccountPattern.filter, List.filter_filter]
      apply List.filter_congr
      intro p _
      rw [bne_iff_ne.2 h, Bool.true_and, Bool.and_comm]
      rfl

/-- Runs may be empty and may hold the end of a line, and letters that an expression would read are
letters of the pattern. -/
example :
    accepts "A.*:*x**" "A.:\n:x" = true ∧ accepts "A.*:*x**" "AB:x" = false ∧
      accepts "A+" "AA" = false := by
  decide

end Appraisal
