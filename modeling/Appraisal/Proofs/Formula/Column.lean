import Appraisal.Proofs.Formula.Lowering
import Appraisal.Proofs.Formula.Parsing
import Appraisal.Proofs.Text.Basic

/-!
# Columns of unknown variables

What is refused about an unknown variable says its name and a column. The name is the word that stands
there in the formula as it is read, which is the text without the blanks at its ends. Messages hold
the text as it was given; the word stands there that much further on as blanks are in front.
-/

namespace Appraisal.Formula

open Outcome

variable {R : Nat → String → Prop} {source : Text} {schema : Schema} {registry : Registry} {limit : Int}

/-! ### What a refused formula says -/

theorem allPruned_eq_map (n : Nat) (es : List Surface) :
    Surface.allPruned n es = es.map (Surface.pruned n) := by
  induction es with
  | nil => rfl
  | cons e es ih => rw [Surface.allPruned, ih, List.map_cons]

theorem linksPruned_eq_map (n : Nat) (ls : List (Relation × Surface)) :
    Surface.linksPruned n ls = ls.map (fun l => (l.1, l.2.pruned n)) := by
  induction ls with
  | nil => rfl
  | cons l ls ih => rw [Surface.linksPruned, Surface.linkPruned, ih, List.map_cons]

theorem names_pruned {e : Surface} (h : e.Names R) (n : Nat) : (e.pruned n).Names R := by
  have htooDeep : Surface.tooDeep.Names R := .other 0 .tooDeep []
  induction h generalizing n with
  | constant c v =>
      rw [Surface.pruned]
      exact .constant c v
  | name c name hname =>
      rw [Surface.pruned]
      exact .name c name hname
  | unary c op e _ ih =>
      cases n with
      | zero => exact htooDeep
      | succ n => exact .unary c op _ (ih n)
  | binary c op l r _ _ ihl ihr =>
      cases n with
      | zero => exact htooDeep
      | succ n => exact .binary c op _ _ (ihl n) (ihr n)
  | connective c b es _ ih =>
      cases n with
      | zero => exact htooDeep
      | succ n =>
          rw [Surface.pruned, allPruned_eq_map]
          exact .connective c b _ (List.forall_mem_map.2 (fun e he => ih e he n))
  | comparison c l ls _ _ ihl ihs =>
      cases n with
      | zero => exact htooDeep
      | succ n =>
          rw [Surface.pruned, linksPruned_eq_map]
          exact .comparison c _ _ (ihl n) (List.forall_mem_map.2 (fun l hl => ihs l hl n))
  | call c f args named _ ih =>
      cases n with
      | zero => exact htooDeep
      | succ n =>
          rw [Surface.pruned, allPruned_eq_map]
          exact .call c f _ named (List.forall_mem_map.2 (fun e he => ih e he n))
  | other c k parts =>
      rw [Surface.pruned]
      exact .other c k parts

/-- A text that is not read is refused for its length or for its syntax as a whole. -/
theorem isOther_of_read {text : Text} {f : FormulaError} (h : read source text = .error f) :
    ∃ detail, f = .malformed source detail 0 ∧ Scope.IsOther detail := by
  unfold read at h
  simp only at h
  split at h
  · exact ⟨_, (Except.error.inj h).symm, .inl (by decide)⟩
  · split at h
    · exact ⟨_, (Except.error.inj h).symm, .inl (by decide +kernel)⟩
    · split at h
      · exact ⟨_, (Except.error.inj h).symm, .inl (by decide)⟩
      · split at h
        · exact ⟨_, (Except.error.inj h).symm, .inl (by decide)⟩
        · split at h
          · exact ⟨_, (Except.error.inj h).symm, .inl (by decide)⟩
          · cases h

/-- If the names of the expression stand in a relation to their columns, so does an unknown variable
in what is said of the formula. -/
theorem says_of_compile {formula detail : Text} {c : Int}
    (hR : ∀ e, read source source.trim = .ok e → e.Names R)
    (h : compile source schema registry limit = .error (.malformed formula detail c)) :
    formula = source ∧ ∃ column : Nat, c = column ∧ Scope.Says R column detail := by
  unfold compile at h
  cases hread : read source source.trim with
  | error f =>
      rw [hread] at h
      obtain ⟨detail', rfl, hother⟩ := isOther_of_read hread
      obtain ⟨rfl, rfl, rfl⟩ := FormulaError.malformed.inj (Except.error.inj h)
      exact ⟨rfl, 0, rfl, .inl hother⟩
  | ok e =>
      rw [hread, ok_bind] at h
      by_cases hsize : limit < e.size
      · rw [if_pos hsize] at h
        cases h
      rw [if_neg hsize] at h
      have hrefuses := Scope.lower_refuses ⟨source, schema, registry⟩
        (names_pruned (hR e hread) typingDepth)
      cases hlower : Scope.lower ⟨source, schema, registry⟩ (e.pruned typingDepth) with
      | error f =>
          rw [hlower] at h hrefuses
          obtain ⟨detail', column, rfl, hsays⟩ := hrefuses
          obtain ⟨rfl, rfl, rfl⟩ := FormulaError.malformed.inj (Except.error.inj h)
          exact ⟨rfl, column, rfl, hsays⟩
      | ok root =>
          rw [hlower, ok_bind] at h
          split_ifs at h
          · cases h
          · cases h

/-! ### Words in quotes -/

theorem quotedLetter_of_isWordChar :
    ∀ i < 128, isWordChar (Char.ofNat i) = true →
      Text.quotedLetter '\x27' (.char (Char.ofNat i)) = [Char.ofNat i] ∧ Char.ofNat i ≠ '\x27' := by
  decide +kernel

theorem mem_of_wordAt {text : List Char} {column : Nat} {n : String} (h : WordAt text column n)
    {c : Char} (hc : c ∈ n.toList) : c ∈ text ∧ isWordChar c = true := by
  rw [← h.2.1] at hc
  exact ⟨List.mem_of_mem_drop ((List.takeWhile_prefix _).subset hc), List.mem_takeWhile_imp hc⟩

theorem quoted_of_wordAt {text : List Char} (htext : IsAsciiLine text) {column : Nat} {n : String}
    (h : WordAt text column n) : (Text.quoted n : Text) = "'" ++ n ++ "'" := by
  have hletter : ∀ c ∈ n.toList, Text.quotedLetter '\x27' (.char c) = [c] ∧ c ≠ '\x27' :=
    fun c hc => by
      obtain ⟨hmem, hword⟩ := mem_of_wordAt h hc
      have hc' := quotedLetter_of_isWordChar c.toNat (htext c hmem).1
      rw [Char.ofNat_toNat] at hc'
      exact hc' hword
  have hquote : Text.quoteFor (n.toList.map .char) = '\x27' := by
    have hmem : (n.toList.map Letter.char).contains (.char '\x27') = false := by
      simpa using fun hmem => (hletter _ hmem).2 rfl
    unfold Text.quoteFor
    rw [hmem]
    rfl
  have hbody : (n.toList.map Letter.char).flatMap (Text.quotedLetter '\x27') = n.toList := by
    rw [List.flatMap_map, List.flatMap_congr (fun c hc => (hletter c hc).1)]
    exact List.flatMap_singleton' n.toList
  have hchars : Text.quotedChars (n.toList.map .char) = '\x27' :: n.toList ++ ['\x27'] := by
    simp only [Text.quotedChars, hquote, hbody]
  refine Text.ext ?_
  rw [Text.quoted]
  show (Text.ofString (String.ofList (Text.quotedChars (n.toList.map .char)))).toList = _
  rw [hchars]
  simp [Text.ofString]

/-! ### Words behind blanks -/

def margin (s : List Char) : Nat := (s.takeWhile Text.isBlank).length

theorem not_isWordChar_of_isBlank :
    ∀ i < 128, Text.isBlank (Char.ofNat i) = true → isWordChar (Char.ofNat i) = false := by
  decide +kernel

theorem wordAt_of_trimmed {s : List Char} (hs : IsAsciiLine s) {column : Nat} {n : String}
    (h : WordAt (Text.trimmed s) column n) : WordAt s (margin s + column) n := by
  obtain ⟨hpos, hword, hne⟩ := h
  obtain ⟨ending, hdrop, hending⟩ := Text.exists_trimmedOf_append Text.isBlank s
  have hstop : ending.takeWhile isWordChar = [] := by
    cases ending with
    | nil => rfl
    | cons c ending =>
        have hc : c ∈ s := (List.dropWhile_suffix _).subset (hdrop ▸ List.mem_append_right _ List.mem_cons_self)
        have hblank := not_isWordChar_of_isBlank c.toNat (hs c hc).1
        rw [Char.ofNat_toNat] at hblank
        exact List.takeWhile_cons_of_neg (by simp [hblank (hending c List.mem_cons_self)])
  have hshort : column - 1 ≤ (Text.trimmed s).length := by
    by_contra hlong
    rw [List.drop_of_length_le (by omega)] at hword
    exact hne hword.symm
  have hs' : s.drop (margin s + column - 1) = (Text.trimmed s).drop (column - 1) ++ ending := by
    have hmargin : s.drop (margin s) = s.dropWhile Text.isBlank :=
      (congrArg (List.drop (margin s)) List.takeWhile_append_dropWhile.symm).trans List.drop_left
    have hsum : margin s + column - 1 = margin s + (column - 1) := by omega
    rw [hsum, ← List.drop_drop, hmargin, hdrop]
    exact List.drop_append_of_le_length hshort
  refine ⟨by omega, ?_, hne⟩
  rw [hs', List.takeWhile_append, hstop, List.append_nil, hword]
  split
  · rename_i hall
    rw [← hword]
    exact ((List.takeWhile_prefix _).eq_of_length (by rw [hword, hall])).symm
  · rfl

theorem unknownVariable_append (x : Text) :
    ("unknown variable '" ++ x ++ "'" : Text) = Scope.unknownVariable ++ ("'" ++ x ++ "'" : Text) :=
  Text.ext (by simp [Scope.unknownVariable, Text.ofString])

theorem not_isOther_unknownVariable (x : Text) :
    ¬ Scope.IsOther ("unknown variable '" ++ x ++ "'") := by
  rintro (hstart | ⟨l, hl, hne⟩)
  · rw [unknownVariable_append] at hstart
    exact hstart (List.prefix_append _ _)
  · have hlast : ("unknown variable '" ++ x ++ "'" : Text).toList.getLast? = some (.char '\x27') :=
      List.getLast?_concat
    exact hne (Option.some.inj (hl.symm.trans hlast))

/-- In a formula of one line of ASCII characters, an unknown variable is the word that stands as far
behind the blanks in front as its column says. So the column points to the word in the text that is
said with it if no blank is in front. -/
theorem wordAt_of_compile {s : String} (hs : IsAsciiLine s.toList) {formula x : Text} {c : Int}
    (h : compile s schema registry limit =
      .error (.malformed formula ("unknown variable '" ++ x ++ "'") c)) :
    formula = s ∧ ∃ (n : String) (column : Nat), x = n ∧ c = column ∧ 0 < column ∧
      WordAt s.toList (margin s.toList + column) n := by
  have hline : IsAsciiLine (Text.trimmed s.toList) := by
    obtain ⟨ending, hdrop, -⟩ := Text.exists_trimmedOf_append Text.isBlank s.toList
    exact fun c hc =>
      hs c ((List.dropWhile_suffix _).subset (hdrop ▸ List.mem_append_left ending hc))
  have hR (e : Surface) (he : read s (Text.ofString s).trim = .ok e) :
      e.Names (WordAt (Text.trimmed s.toList)) := by
    obtain ⟨t, ht, hparse⟩ := exists_parse?_of_read he
    rw [Text.toList_trim_ofString, Text.chars?_map_char] at ht
    obtain rfl := Option.some.inj ht
    exact (wellRead_of_parse? (fun _ htokens => named_of_lex? hline htokens) hparse).names
  obtain ⟨rfl, column, rfl, hsays⟩ := says_of_compile hR h
  obtain ⟨n, hdetail, hword⟩ := hsays.resolve_left (not_isOther_unknownVariable x)
  refine ⟨rfl, n, column, ?_, rfl, hword.1, wordAt_of_trimmed hs hword⟩
  rw [quoted_of_wordAt hline hword, unknownVariable_append] at hdetail
  have hletters := congrArg Text.toList hdetail
  simp only [Text.toList_append, List.append_assoc] at hletters
  have hquoted := List.append_cancel_left (List.append_cancel_left hletters)
  exact Text.ext (List.append_cancel_right hquoted)

def fault? (source : Text) : Option FormulaError :=
  match compile source with
  | .ok _ => none
  | .error f => some f

theorem compile_eq_error {f : FormulaError} (h : fault? source = some f) :
    compile source = .error f := by
  unfold fault? at h
  split at h
  · cases h
  · rename_i hcompile
    rw [hcompile, Option.some.inj h]

def commented : String := "\tfloor(amount) / (2 - principal )  # floor"

theorem wordAt_of_compile_commented :
    compile commented = .error (.malformed commented "unknown variable 'principal'" 22) ∧
      WordAt commented.toList 23 "principal" := by
  have hline : IsAsciiLine commented.toList := by decide
  have hcompile : compile commented =
      .error (.malformed commented ("unknown variable '" ++ "principal" ++ "'") 22) :=
    compile_eq_error (by decide +kernel)
  obtain ⟨-, n, column, hn, hcolumn, -, hword⟩ := wordAt_of_compile hline hcompile
  obtain rfl : 22 = column := Int.ofNat.inj hcolumn
  obtain rfl : "principal" = n := by
    have hstring := congrArg Text.string? hn
    rw [Text.string?_ofString, Text.string?_ofString] at hstring
    exact Option.some.inj hstring
  exact ⟨hcompile, hword⟩

/-- The column that is said of the word is not where it stands in the text that is said with it. -/
theorem compile_indented :
    IsAsciiLine "  amount + principal".toList ∧
      compile "  amount + principal" =
        .error (.malformed "  amount + principal" "unknown variable 'principal'" 10) ∧
      ¬ "principal".toList <+: "  amount + principal".toList.drop (10 - 1) ∧
      "principal".toList <+: "  amount + principal".toList.drop (12 - 1) :=
  ⟨by decide, compile_eq_error (by decide +kernel), by decide, by decide⟩

end Appraisal.Formula
