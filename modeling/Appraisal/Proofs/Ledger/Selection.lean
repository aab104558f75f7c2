import Mathlib.Data.List.Lex
import Mathlib.Data.List.TakeWhile
import Appraisal.Ledger.Store
import Appraisal.Proofs.Journal.Writing
import Appraisal.Proofs.Sorting
import Appraisal.Proofs.Text.Basic

/-!
# Selecting postings in two phases

Storage looks for the accounts of a pattern with a filter that it takes from the text in front of the
first star. Percent signs and underscores of that text are wild in the filter, and letters that
differ only in case are the same to it. All this only lets more accounts through: an account that the
pattern matches is let through by its filter, so the exact match after it finds every posting.
-/

namespace Appraisal

open Text Outcome Journaled

/-! ### Wildcards -/

namespace Text.Wildcard

variable {α : Type} {same : α → α → Bool}

def OfLetter (symbol : α → Wildcard α) : Prop :=
  ∀ c, symbol c = .anyRun ∨ symbol c = .anyOne ∨ symbol c = .exactly c

theorem matchesAll_anyRun (s : List α) : matchesAll same [.anyRun] s = true := by
  rw [matchesAll, someEnd_eq_true_iff]
  exact ⟨s, [], (List.append_nil s).symm, rfl⟩

/-- Letters match the symbols that are made from them, whatever is wild among these. -/
theorem matchesAll_map_append (hrefl : ∀ c, same c c = true) {symbol : α → Wildcard α}
    (hsymbol : OfLetter symbol) {p : List (Wildcard α)} {s : List α}
    (h : matchesAll same p s = true) (w : List α) :
    matchesAll same (w.map symbol ++ p) (w ++ s) = true := by
  induction w with
  | nil => exact h
  | cons c w ih =>
      rw [List.map_cons, List.cons_append, List.cons_append]
      rcases hsymbol c with hc | hc | hc
      · rw [hc, matchesAll, someEnd_eq_true_iff]
        exact ⟨[c], w ++ s, rfl, ih⟩
      · rw [hc, matchesAll]
        exact ih
      · rw [hc, matchesAll, hrefl, Bool.true_and]
        exact ih

theorem matchesAll_map (hrefl : ∀ c, same c c = true) {symbol : α → Wildcard α}
    (hsymbol : OfLetter symbol) (w : List α) : matchesAll same (w.map symbol) w = true := by
  have h := matchesAll_map_append hrefl hsymbol (p := []) (s := []) rfl w
  rwa [List.append_nil, List.append_nil] at h

/-- Given letters at the head of a pattern stand at the head of every text that it matches. -/
theorem eq_append_of_matchesAll_exactly [DecidableEq α] {w s : List α} {p : List (Wildcard α)}
    (h : matchesAll (· == ·) (w.map .exactly ++ p) s = true) :
    ∃ t, s = w ++ t ∧ matchesAll (· == ·) p t = true := by
  induction w generalizing s with
  | nil => exact ⟨s, rfl, h⟩
  | cons c w ih =>
      cases s with
      | nil => simp [matchesAll] at h
      | cons d s =>
          rw [List.map_cons, List.cons_append, matchesAll, Bool.and_eq_true, beq_iff_eq] at h
          obtain ⟨rfl, h⟩ := h
          obtain ⟨t, rfl, ht⟩ := ih h
          exact ⟨t, rfl, ht⟩

end Text.Wildcard

open Text.Wildcard

/-! ### Filters -/

namespace AccountPattern

def head (pattern : Text) : List Letter := pattern.toList.takeWhile (· != star)

theorem map_symbol_head (pattern : Text) :
    (head pattern).map symbol = (head pattern).map Wildcard.exactly := by
  apply List.map_congr_left
  intro l hl
  have hne : l ≠ star := by simpa using List.mem_takeWhile_imp hl
  rw [symbol, if_neg hne]

theorem head_eq_of_not_contains {pattern : Text} (h : ¬ pattern.toList.contains star = true) :
    head pattern = pattern.toList := by
  apply List.takeWhile_eq_self_iff.2
  intro l hl
  have hne : l ≠ star := by
    rintro rfl
    exact h (List.contains_iff_mem.2 hl)
  simpa using hne

theorem coarse_of_contains {pattern : Text} (h : pattern.toList.contains star = true) :
    coarse pattern = .ofList (head pattern) ++ "%" := by
  rw [coarse, if_pos h]
  rfl

theorem coarse_of_not_contains {pattern : Text} (h : ¬ pattern.toList.contains star = true) :
    coarse pattern = pattern := by
  rw [coarse, if_neg h]

/-- An account that a pattern matches starts with the head of the pattern, and is no more than that
when the pattern has no star. -/
theorem eq_head_append {pattern account : Text} (h : accepts pattern account = true) :
    ∃ t, account.toList = head pattern ++ t ∧
      (pattern.toList.contains star = true ∨ t = []) := by
  have hsplit : pattern.toList.map symbol =
      (head pattern).map Wildcard.exactly ++
        (pattern.toList.dropWhile (· != star)).map symbol := by
    rw [← map_symbol_head, ← List.map_append]
    exact congrArg _ List.takeWhile_append_dropWhile.symm
  rw [accepts, hsplit] at h
  obtain ⟨t, ht, hrest⟩ := eq_append_of_matchesAll_exactly h
  refine ⟨t, ht, ?_⟩
  by_cases hstar : pattern.toList.contains star = true
  · exact .inl hstar
  · have hnil : pattern.toList.dropWhile (· != star) = [] := by
      have happend := List.takeWhile_append_dropWhile (p := (· != star)) (l := pattern.toList)
      have hhead := head_eq_of_not_contains hstar
      unfold head at hhead
      rw [hhead] at happend
      exact List.append_right_eq_self.1 happend
    rw [hnil, List.map_nil, matchesAll, List.isEmpty_iff] at hrest
    exact .inr hrest

end AccountPattern

namespace CoarseFilter

open AccountPattern

theorem ofLetter_symbol : OfLetter symbol := by
  intro l
  by_cases hrun : l = '%'
  · exact .inl (by rw [symbol, if_pos hrun])
  · by_cases hone : l = '_'
    · exact .inr (.inl (by rw [symbol, if_neg hrun, if_pos hone]))
    · exact .inr (.inr (by rw [symbol, if_neg hrun, if_neg hone]))

theorem map_symbol_percent : ("%" : Text).toList.map symbol = [.anyRun] := by decide

/-- The filter of a pattern matches, as a whole, the letters of every account that the pattern
matches, whichever letters count as the same. -/
theorem matchesAll_coarse {same : Letter → Letter → Bool} (hrefl : ∀ l, same l l = true)
    {pattern account : Text} (h : AccountPattern.accepts pattern account = true) :
    matchesAll same ((coarse pattern).toList.map symbol) account.toList = true := by
  obtain ⟨t, ht, hstar⟩ := eq_head_append h
  rw [ht]
  by_cases hcontains : pattern.toList.contains star = true
  · rw [coarse_of_contains hcontains, toList_append, List.map_append, map_symbol_percent]
    exact matchesAll_map_append hrefl ofLetter_symbol (matchesAll_anyRun t) (head pattern)
  · obtain rfl := hstar.resolve_left hcontains
    rw [coarse_of_not_contains hcontains, List.append_nil, head_eq_of_not_contains hcontains]
    exact matchesAll_map hrefl ofLetter_symbol pattern.toList

theorem sameLetter_self (l : Letter) : sameLetter l l = true := beq_self_eq_true _

/-- A text that storage sees in part hides what is behind it. -/
theorem visible_append (s t : List Letter) :
    visible (.ofList (s ++ t)) =
      if visible (.ofList s) = s then s ++ visible (.ofList t) else visible (.ofList s) := by
  unfold visible
  rw [List.takeWhile_append]
  by_cases h : s.takeWhile (· != .char '\x00') = s
  · rw [if_pos h, if_pos (congrArg List.length h)]
  · rw [if_neg h, if_neg]
    intro hlength
    exact h ((List.takeWhile_prefix _).eq_of_length hlength)

/-- The filter of a pattern lets every account through that the pattern matches. -/
theorem accepts_coarse {pattern account : Text}
    (h : AccountPattern.accepts pattern account = true) :
    accepts (coarse pattern) account = true := by
  by_cases hcontains : pattern.toList.contains star = true
  · obtain ⟨t, ht, -⟩ := eq_head_append h
    obtain rfl : account = .ofList (head pattern ++ t) := Text.ext ht
    have hfilter : coarse pattern = .ofList (head pattern ++ [.char '%']) :=
      coarse_of_contains hcontains
    rw [accepts, hfilter, visible_append, visible_append]
    by_cases hvisible : visible (.ofList (head pattern)) = head pattern
    · rw [if_pos hvisible, if_pos hvisible, List.map_append]
      exact matchesAll_map_append sameLetter_self ofLetter_symbol (matchesAll_anyRun _)
        (head pattern)
    · rw [if_neg hvisible, if_neg hvisible]
      exact matchesAll_map sameLetter_self ofLetter_symbol _
  · obtain ⟨t, ht, hstar⟩ := eq_head_append h
    obtain rfl := hstar.resolve_left hcontains
    rw [List.append_nil, head_eq_of_not_contains hcontains] at ht
    rw [Text.ext ht, coarse_of_not_contains hcontains]
    exact matchesAll_map sameLetter_self ofLetter_symbol _

end CoarseFilter

/-! ### Selection -/

namespace LedgerStore

theorem before_iff {p q : Posting} :
    before p q = true ↔ p.date.day < q.date.day ∨
      p.date.day = q.date.day ∧ p.account.codes < q.account.codes := by
  simp [before, Text.before]

theorem before_irrefl (p : Posting) : before p p = false := by
  rw [← Bool.not_eq_true, before_iff]
  rintro (h | ⟨-, h⟩)
  · omega
  · exact lt_irrefl _ h

theorem before_trans (p q r : Posting) (hpq : before p q = true) (hqr : before q r = true) :
    before p r = true := by
  rw [before_iff] at hpq hqr ⊢
  rcases hpq with hpq | ⟨hday, hpq⟩
  · left
    omega
  · rcases hqr with hqr | ⟨hday', hqr⟩
    · left
      omega
    · exact .inr ⟨hday.trans hday', hpq.trans hqr⟩

theorem before_of_before_of_not_before (p q r : Posting) (hpq : before p q = true)
    (hrq : before r q = false) : before p r = true := by
  rw [← Bool.not_eq_true, before_iff, not_or, not_and] at hrq
  rw [before_iff] at hpq ⊢
  rcases hpq with hpq | ⟨hday, hpq⟩
  · by_cases hday : r.date.day = q.date.day
    · left
      omega
    · left
      omega
  · by_cases hday' : r.date.day = q.date.day
    · exact .inr ⟨hday.trans hday'.symm, hpq.trans_le (not_lt.1 (hrq.2 hday'))⟩
    · left
      omega

theorem filter_sorted_before (p : Posting → Bool) (rows : List Posting) :
    (sorted before rows).filter p = sorted before (rows.filter p) :=
  filter_sorted before_trans before_irrefl before_of_before_of_not_before p rows

/-- The exact match keeps of the candidates what it keeps of all rows, in the order of candidates. -/
theorem filter_candidates (pattern : Text) (rows : List Posting) :
    AccountPattern.filter pattern (candidates (AccountPattern.coarse pattern) rows) =
      sorted before (AccountPattern.filter pattern rows) := by
  unfold AccountPattern.filter candidates
  rw [filter_sorted_before, List.filter_filter]
  apply congrArg
  apply List.filter_congr
  intro p _
  by_cases hp : AccountPattern.accepts pattern p.account = true
  · rw [hp, CoarseFilter.accepts_coarse hp, Bool.and_self]
  · rw [Bool.not_eq_true] at hp
    rw [hp, Bool.false_and]

/-- Storage takes a filter that can be written as bytes, and not with too many of them where there are
rows to compare it with. -/
def Takes (rows : List Posting) (filter : Text) : Prop :=
  ∃ s, filter.string? = some s ∧ (rows = [] ∨ s.utf8ByteSize ≤ filterLimit)

theorem filterOf_eq_ok_iff {pattern filter : Text} {rows : List Posting} :
    filterOf pattern rows = .ok filter ↔
      AccountPattern.coarse pattern = filter ∧ Takes rows filter := by
  unfold filterOf Takes Text.string?
  constructor
  · intro h
    obtain ⟨f, hf, h⟩ := bind_eq_ok_iff.1 h
    obtain ⟨rfl, hletters⟩ := Row.eq_of_encoded hf
    obtain ⟨cs, hcs⟩ := Text.exists_chars?_iff.2 (List.any_eq_false.2 (fun l hl => by
      rw [hletters l hl]
      exact Bool.false_ne_true))
    rw [Text.filterMap_char?_of_chars? hcs, Text.foldl_utf8Size] at h
    by_cases hlong : (filterLimit < (String.ofList cs).utf8ByteSize && !rows.isEmpty) = true
    · simp [hlong] at h
    · rw [if_neg hlong] at h
      obtain rfl := Except.ok.inj h
      refine ⟨rfl, String.ofList cs, by rw [hcs]; rfl, ?_⟩
      simp only [Bool.and_eq_true, decide_eq_true_eq, Bool.not_eq_true', not_and,
        Bool.not_eq_false, List.isEmpty_iff] at hlong
      by_cases hsize : filterLimit < (String.ofList cs).utf8ByteSize
      · exact .inl (hlong hsize)
      · exact .inr (Nat.not_lt.1 hsize)
  · rintro ⟨rfl, s, hs, hsize⟩
    obtain ⟨cs, hcs, rfl⟩ := Option.map_eq_some_iff.1 hs
    have hencoded : Row.encoded (AccountPattern.coarse pattern) =
        .ok (AccountPattern.coarse pattern) := by
      rw [Row.encoded, Text.exists_chars?_iff.1 ⟨cs, hcs⟩]
      rfl
    have hshort : ¬ (filterLimit < (String.ofList cs).utf8ByteSize && !rows.isEmpty) = true := by
      rcases hsize with rfl | hsize
      · simp
      · simp [Nat.not_lt.2 hsize]
    rw [hencoded, ok_bind, Text.filterMap_char?_of_chars? hcs, Text.foldl_utf8Size]
    dsimp only
    rw [if_neg hshort]
    rfl

theorem yields_select (rows : List Posting) (pattern : Text) :
    Yields ((ready rows).select pattern)
      ((filterOf pattern rows).map (fun filter => candidates filter rows)) := by
  have hmap (x : Except LedgerError Text) :
      x.map (fun filter => candidates filter rows) =
        x >>= fun filter => .ok (candidates filter rows) := by
    cases x <;> rfl
  rw [hmap]
  apply (yields_lift (.ok rows)).bind
  intro rows' hrows
  obtain rfl := Except.ok.inj hrows
  apply (yields_lift (filterOf pattern rows)).bind
  intro filter _
  exact (yields_note _ _ _ _ _).bind (g := fun _ => .ok (candidates filter rows))
    (fun _ _ => yields_pure _)

/-- Selecting in two phases loses nothing. The filter of a pattern accepts every account that the
pattern matches, whichever letters count as the same. So the exact match finds among the candidates
of storage just the postings of these accounts, each as often as it is in the ledger, in the order of
days and accounts. Storage gives these candidates for every filter that it takes. -/
theorem filter_select (rows : List Posting) (pattern : Text) (s : JournalState) :
    (∀ account, AccountPattern.accepts pattern account = true →
      CoarseFilter.accepts (AccountPattern.coarse pattern) account = true ∧
      ∀ same : Letter → Letter → Bool, (∀ l, same l l = true) →
        Wildcard.matchesAll same ((AccountPattern.coarse pattern).toList.map CoarseFilter.symbol)
          account.toList = true) ∧
    (AccountPattern.filter pattern (candidates (AccountPattern.coarse pattern) rows)).Perm
      (AccountPattern.filter pattern rows) ∧
    AccountPattern.filter pattern (candidates (AccountPattern.coarse pattern) rows) =
      sorted before (AccountPattern.filter pattern rows) ∧
    (∀ found, (((ready rows).select pattern).run s).1 = .ok found →
      found = candidates (AccountPattern.coarse pattern) rows) ∧
    ((∃ found, (((ready rows).select pattern).run s).1 = .ok found) ↔
      Takes rows (AccountPattern.coarse pattern)) := by
  have hrun := yields_select rows pattern s
  have hfilter := filter_candidates pattern rows
  refine ⟨fun account h => ⟨CoarseFilter.accepts_coarse h, fun same hrefl =>
    CoarseFilter.matchesAll_coarse hrefl h⟩, ?_, hfilter, ?_, ?_⟩
  · rw [hfilter]
    exact perm_sorted before _
  · intro found hfound
    rw [hrun] at hfound
    cases hf : filterOf pattern rows with
    | error e => simp [hf, Except.map] at hfound
    | ok filter =>
        rw [hf] at hfound
        obtain ⟨rfl, -⟩ := filterOf_eq_ok_iff.1 hf
        exact (Except.ok.inj hfound).symm
  · rw [hrun]
    constructor
    · rintro ⟨found, hfound⟩
      cases hf : filterOf pattern rows with
      | error e => simp [hf, Except.map] at hfound
      | ok filter =>
          obtain ⟨rfl, htakes⟩ := filterOf_eq_ok_iff.1 hf
          exact htakes
    · intro htakes
      rw [filterOf_eq_ok_iff.2 ⟨rfl, htakes⟩]
      exact ⟨_, rfl⟩

/-- The underscore of a pattern is a letter to the exact match and wild to storage, which does not
tell small letters from capital ones either. -/
theorem filter_select_of_underscore :
    let pattern : Text := "p2p_*"
    let live : Posting := ⟨"p2p_live", .finite false 100 0, .newYear2024, .one, "", "", "INR",
      by decide⟩
    let other : Posting := ⟨"P2P-other", .finite false 50 0, .newYear2024, .one, "", "", "INR",
      by decide⟩
    AccountPattern.accepts pattern live.account = true ∧
      CoarseFilter.accepts (AccountPattern.coarse pattern) live.account = true ∧
      CoarseFilter.accepts (AccountPattern.coarse pattern) other.account = true ∧
      AccountPattern.filter pattern
        (candidates (AccountPattern.coarse pattern) [other, live]) = [live] := by
  intro pattern live other
  have hlive : AccountPattern.accepts pattern live.account = true := by decide
  have hother : AccountPattern.accepts pattern other.account = false := by decide
  obtain ⟨hcoarse, -, hfilter, -⟩ := filter_select [other, live] pattern empty
  refine ⟨hlive, (hcoarse _ hlive).1, by decide, ?_⟩
  have hexact : AccountPattern.filter pattern [other, live] = [live] := by
    simp [AccountPattern.filter, hlive, hother]
  rw [hfilter, hexact]
  rfl

end LedgerStore

end Appraisal
