import Appraisal.Proofs.Json.Document

/-!
# What written data are read back as

Data of the kinds of JSON are written on a single line and read back as they are. A tuple is read back
as a list, and data that JSON does not know as the texts that they are converted to. A double is read
back bit for bit, since its shortest decimal is nearer to it than to any other. Whole numbers with too
many digits, doubles that are not finite and pairs of surrogates are left out. What is read as a
number is a number of the grammar. The main statements: `isSome_number?_iff` and `exists_write`.
-/

namespace Appraisal

open Outcome Text

namespace Datum

inductive IsForeign : Datum → Prop
  | uuid (n : Nat) : IsForeign (.uuid n)
  | date (d : Date) : IsForeign (.date d)
  | moment (t : Moment) : IsForeign (.moment t)
  | decimal (d : Decimal) : IsForeign (.decimal d)

/-- Data of the kinds of JSON and the foreign ones, at any depth. Doubles are finite, whole numbers
have no more digits than are written, and no text holds a pair of surrogates. -/
inductive IsWritable : Datum → Prop
  | null : IsWritable .null
  | truth (b : Bool) : IsWritable (.truth b)
  | whole {n : Int} (short : (whole n).holdsOverlong = false) : IsWritable (.whole n)
  | double {x : Float} (finite : x.isFinite = true) : IsWritable (.double x)
  | text {t : Text} (unpaired : t.IsUnpaired) : IsWritable (.text t)
  | foreign {d : Datum} (h : d.IsForeign) : IsWritable d
  | list {ds : List Datum} (items : ∀ d ∈ ds, IsWritable d) : IsWritable (.list ds)
  | tuple {ds : List Datum} (items : ∀ d ∈ ds, IsWritable d) : IsWritable (.tuple ds)
  | object {fs : List (Text × Datum)} (keys : ∀ f ∈ fs, f.1.IsUnpaired)
      (nodup : (fs.map Prod.fst).Nodup) (values : ∀ f ∈ fs, IsWritable f.2) :
      IsWritable (.object fs)

end Datum

namespace Json

/-! ### What a written datum stands for -/

mutual

/-- What is read where a datum is written: a list for a tuple, and for data that JSON does not know
the texts that they are converted to. -/
def spelled (convert : Datum → Option Text) : Datum → Datum
  | .null => .null
  | .truth b => .truth b
  | .whole n => .whole n
  | .double x => .double x
  | .text t => .text t
  | .member _ _ t => .text t
  | .list ds => .list (spelledItems convert ds)
  | .tuple ds => .list (spelledItems convert ds)
  | .map es => .map (spelledEntries convert es)
  | d => ((convert d).map Datum.text).getD d

def spelledItems (convert : Datum → Option Text) : List Datum → List Datum
  | [] => []
  | d :: ds => spelled convert d :: spelledItems convert ds

def spelledEntries (convert : Datum → Option Text) : List (Datum × Datum) → List (Datum × Datum)
  | [] => []
  | e :: es => spelledEntry convert e :: spelledEntries convert es

def spelledEntry (convert : Datum → Option Text) : Datum × Datum → Datum × Datum
  | (k, d) => (k, spelled convert d)

end

variable {convert : Datum → Option Text}

theorem spelledItems_eq_map (convert : Datum → Option Text) (ds : List Datum) :
    spelledItems convert ds = ds.map (spelled convert) := by
  induction ds with
  | nil => rfl
  | cons d ds ih => exact congrArg (spelled convert d :: ·) ih

theorem spelled_object (convert : Datum → Option Text) (fs : List (Text × Datum)) :
    spelled convert (.object fs) = .object (fs.map (fun f => (f.1, spelled convert f.2))) := by
  have hentries : spelledEntries convert (fs.map (fun f => (Datum.text f.1, f.2))) =
      (fs.map (fun f => (f.1, spelled convert f.2))).map (fun f => (Datum.text f.1, f.2)) := by
    induction fs with
    | nil => rfl
    | cons f fs ih => exact congrArg ((Datum.text f.1, spelled convert f.2) :: ·) ih
  exact congrArg Datum.map hentries

/-! ### Numbers -/

theorem isDelimiter_of_isNumberChar {c : Char} (h : isNumberChar c = true) :
    isDelimiter c = false := by
  by_contra hne
  have hdelimiter : isDelimiter c = true := Bool.not_eq_false _ ▸ hne
  simp only [isDelimiter, isSpace, Bool.or_eq_true, decide_eq_true_eq] at hdelimiter
  rcases hdelimiter with ((((((((((rfl | rfl) | rfl) | rfl) | rfl) | rfl) | rfl) | rfl) | rfl) |
    rfl) | rfl)
  all_goals exact absurd h (by decide)

theorem word?_of_isNumberChar {w : List Char} (h : ∀ c ∈ w, isNumberChar c = true) :
    word? w = number? w := by
  have hne {name : List Char} (c : Char) (hc : c ∈ name) (hother : isNumberChar c = false) :
      w ≠ name := by
    rintro rfl
    exact Bool.false_ne_true (hother.symm.trans (h c hc))
  have hnone : constant? w = none := by
    rw [constant?, if_neg (hne 'n' (by decide) rfl), if_neg (hne 't' (by decide) rfl),
      if_neg (hne 'f' (by decide) rfl), if_neg (hne 'N' (by decide) rfl),
      if_neg (hne 'I' (by decide) rfl), if_neg (hne 'I' (by decide) rfl)]
  rw [word?, hnone]
  rfl

theorem IsInteger.isDigits {s : List Char} (h : IsInteger s) : IsDigits s := by
  cases h with
  | zero => exact ⟨List.cons_ne_nil _ _, by simp⟩
  | leading _ digits => exact digits

theorem IsDigits.exists_map {s : List Char} (h : IsDigits s) :
    ∃ ds : List Nat, ds ≠ [] ∧ (∀ d ∈ ds, d < 10) ∧ s = ds.map digitChar := by
  have hdigit (c : Char) (hc : c ∈ s) : c.toNat - 48 < 10 ∧ digitChar (c.toNat - 48) = c := by
    have hbetween := Char.isDigit_iff_toNat.1 (h.2 c hc)
    have hends : '0'.toNat = 48 ∧ '9'.toNat = 57 := ⟨rfl, rfl⟩
    refine ⟨by omega, ?_⟩
    rw [digitChar, show 48 + (c.toNat - 48) = c.toNat by omega, Char.ofNat_toNat]
  refine ⟨s.map (fun c => c.toNat - 48), by simpa using h.1, ?_, ?_⟩
  · exact List.forall_mem_map.2 (fun c hc => (hdigit c hc).1)
  · rw [List.map_map]
    exact ((List.map_congr_left (fun c hc => (hdigit c hc).2)).trans (List.map_id s)).symm

theorem IsExponent.spanDigits_eq {s : List Char} (h : IsExponent s) :
    Numeral.spanDigits s = ([], s) := by
  cases h with
  | none => rfl
  | unsigned mark _ => rcases mark with rfl | rfl <;> rfl
  | signed mark _ _ => rcases mark with rfl | rfl <;> rfl

theorem isSome_exponent? {s : List Char} (h : IsExponent s) :
    (Numeral.exponent? s).isSome = true := by
  have hdigits {ds : List Nat} (hds : ∀ d ∈ ds, d < 10) :
      Numeral.spanDigits (ds.map digitChar) = (ds, []) := by
    have happend := Numeral.spanDigits_map_append hds (show Numeral.spanDigits [] = ([], []) from rfl)
    rwa [List.append_nil] at happend
  have hmarked {e : Char} {ds : List Nat} {s : List Char} {negative : Bool}
      (mark : e = 'e' ∨ e = 'E') (hne : ds ≠ []) (hlt : ∀ d ∈ ds, d < 10)
      (hsign : Numeral.spanSign s = (negative, ds.map digitChar)) :
      (Numeral.exponent? (e :: s)).isSome = true := by
    obtain ⟨d, ds, rfl⟩ := List.exists_cons_of_ne_nil hne
    simp only [Numeral.exponent?, if_pos mark, hsign, hdigits hlt, Option.isSome_some]
  cases h with
  | none => rfl
  | unsigned mark digits =>
      obtain ⟨ds, hne, hlt, rfl⟩ := digits.exists_map
      have hsign := Numeral.spanSign_map_append hlt hne []
      rw [List.append_nil] at hsign
      exact hmarked mark hne hlt hsign
  | signed mark hsign digits =>
      obtain ⟨ds, hne, hlt, rfl⟩ := digits.exists_map
      rcases hsign with rfl | rfl
      · exact hmarked mark hne hlt rfl
      · exact hmarked mark hne hlt rfl

theorem isSome_read?_signed (negative : Bool) {s : List Char} (h : IsMagnitude s) :
    (Numeral.read? (Numeral.signChars negative ++ s)).isSome = true := by
  obtain ⟨whole, fraction, exponent, hwhole, hfraction, hexponent, rfl⟩ := h
  obtain ⟨ws, hne, hlt, rfl⟩ := hwhole.isDigits.exists_map
  rw [Numeral.read?, Numeral.spanSign_signChars hlt hne]
  cases hfraction with
  | none =>
      rw [List.nil_append]
      simp only [Numeral.spanDigits_map_append hlt hexponent.spanDigits_eq]
      split
      · exact absurd rfl (hexponent.head '.' rfl).2
      · simp [hne, isSome_exponent? hexponent]
  | point digits =>
      obtain ⟨fs, -, hfs, rfl⟩ := digits.exists_map
      have hpoint : Numeral.spanDigits ('.' :: (fs.map digitChar ++ exponent)) =
          ([], '.' :: (fs.map digitChar ++ exponent)) := rfl
      rw [List.cons_append]
      simp only [Numeral.spanDigits_map_append hlt hpoint,
        Numeral.spanDigits_map_append hfs hexponent.spanDigits_eq]
      simp [hne, isSome_exponent? hexponent]

theorem IsNumber.isSome_read? {s : List Char} (h : IsNumber s) :
    (Numeral.read? s).isSome = true := by
  cases h with
  | positive hm => exact isSome_read?_signed false hm
  | negative hm => exact isSome_read?_signed true hm

/-- The reader takes for numbers the words that the grammar has for them, and no others. -/
theorem isSome_number?_iff {s : List Char} : (number? s).isSome = true ↔ IsNumber s := by
  rw [number?]
  constructor
  · intro h
    by_contra hnot
    rw [if_neg (fun hs => hnot (isNumeral_iff.1 hs))] at h
    cases h
  · intro h
    obtain ⟨n, hn⟩ := Option.isSome_iff_exists.1 h.isSome_read?
    rw [if_pos (isNumeral_iff.2 h), hn]
    rfl

example : ["0", "-0", "10.50", "1e5", "1E+05"].all (fun s => (number? s.toList).isSome) ∧
    ["01", "+1", "1.", ".5", "-", "1e", "0x1"].all (fun s => (number? s.toList).isNone) := by
  decide

/-- A numeral is read as a whole number or as a double, as its characters say. -/
theorem readsEnded_number {w : List Char} {n : Numeral} (hw : IsNumber w) (h : n.IsWrittenAs w) :
    ReadsEnded (if w.all (fun c => c.isDigit || c = '-') then
      .whole (if n.negative then -(n.coefficient : Int) else n.coefficient)
      else .double n.toFloat) w := by
  have hchars := hw.isNumberChar
  have hne : w ≠ [] := by
    rintro rfl
    have hread := h.read?_eq
    cases hread
  refine readsEnded_word hne (fun c hc => isDelimiter_of_isNumberChar (hchars c hc)) ?_
  rw [word?_of_isNumberChar hchars, number?, if_pos (isNumeral_iff.2 hw), h.read?_eq]
  rfl

theorem readsEnded_whole (n : Int) : ReadsEnded (.whole n) (intText n).toList := by
  obtain ⟨ds, hds, hlt, hvalue⟩ := exists_digitsOf n.natAbs
  have hne : ds ≠ [] := by
    rintro rfl
    exact digitsOf_ne_nil _ hds
  have hdigits := (isDigits_map hlt hne).2
  have hchars : (intText n).toList = Numeral.signChars (n < 0) ++ ds.map digitChar := by
    rw [intText, String.toList_ofList, hds]
    by_cases hn : n < 0
    · rw [if_pos hn, decide_eq_true hn]
      rfl
    · rw [if_neg hn, decide_eq_false hn]
      rfl
  have hwritten : Numeral.IsWrittenAs ⟨n < 0, ds, [], 0⟩ (intText n).toList :=
    ⟨hlt, by simp, hne, [], .none, by rw [hchars, Numeral.unsigned, if_pos rfl, List.append_nil,
      List.append_nil]⟩
  have hall : (intText n).toList.all (fun c => c.isDigit || c = '-') = true := by
    rw [hchars, List.all_append, Bool.and_eq_true]
    refine ⟨?_, List.all_eq_true.2 (fun c hc => by rw [hdigits c hc, Bool.true_or])⟩
    cases decide (n < 0) <;> rfl
  have hcoefficient : Numeral.coefficient ⟨n < 0, ds, [], 0⟩ = n.natAbs := by
    rw [Numeral.coefficient, List.append_nil, hvalue]
  have hreads := readsEnded_number (isNumber_intText n) hwritten
  rw [if_pos hall, hcoefficient] at hreads
  have hsign : (if decide (n < 0) = true then -(n.natAbs : Int) else n.natAbs) = n := by
    by_cases hn : n < 0
    · rw [if_pos (decide_eq_true hn)]
      omega
    · rw [if_neg (by simpa using hn)]
      omega
  rwa [hsign] at hreads

theorem readsEnded_double {x : Float} (h : x.isFinite = true) :
    ReadsEnded (.double x) (jsonNotation.text x).toList := by
  obtain ⟨n, hn, hx⟩ := FloatNotation.exists_isWrittenAs_chars (f := jsonNotation) rfl h
  obtain ⟨c, hc, hmark⟩ := FloatNotation.exists_mark_mem_chars (f := jsonNotation) rfl h
  have hall : ¬ (jsonNotation.chars x).all (fun c => c.isDigit || c = '-') = true := by
    intro hall
    have hother := List.all_eq_true.1 hall c hc
    rcases hmark with rfl | rfl <;> exact absurd hother (by decide)
  have hreads := readsEnded_number (isNumber_chars h) hn
  rw [if_neg hall, hx] at hreads
  rw [FloatNotation.text, String.toList_ofList]
  exact hreads

/-! ### A single line -/

def IsLine (s : List Char) : Prop := ∀ c ∈ s, 0x20 ≤ c.toNat ∧ c.toNat < 0x7F

section

variable {s t : List Char} {c : Char}

theorem IsLine.append (hs : IsLine s) (ht : IsLine t) : IsLine (s ++ t) :=
  List.forall_mem_append.2 ⟨hs, ht⟩

theorem IsLine.cons (hc : 0x20 ≤ c.toNat ∧ c.toNat < 0x7F) (hs : IsLine s) : IsLine (c :: s) :=
  List.forall_mem_cons.2 ⟨hc, hs⟩

theorem isLine_nil : IsLine [] := fun _ h => absurd h List.not_mem_nil

theorem isLine_codeEscape (n : Nat) : IsLine (codeEscape n) := by
  have hdigit : ∀ d < 16, 0x20 ≤ (hexDigit d).toNat ∧ (hexDigit d).toNat < 0x7F := by decide
  have hunit (unit : Nat) : IsLine (unitEscape unit) := by
    refine .cons (by decide) (.cons (by decide) (fun c hc => ?_))
    obtain ⟨d, hd, rfl⟩ := exists_hexDigit_of_mem_hex hc
    exact hdigit d hd
  unfold codeEscape
  split
  · exact hunit n
  · exact (hunit _).append (hunit _)

theorem isLine_escapedLetter (l : Letter) : IsLine (escapedLetter l) := by
  cases l with
  | surrogate i => exact isLine_codeEscape _
  | char c =>
      have hshort (x : Char) (hx : 0x20 ≤ x.toNat ∧ x.toNat < 0x7F) : IsLine ['\\', x] :=
        .cons (by decide) (.cons hx isLine_nil)
      unfold escapedLetter
      dsimp only
      split_ifs with _ _ _ _ _ _ _ hprintable
      · exact hshort _ (by decide)
      · exact hshort _ (by decide)
      · exact hshort _ (by decide)
      · exact hshort _ (by decide)
      · exact hshort _ (by decide)
      · exact hshort _ (by decide)
      · exact hshort _ (by decide)
      · rw [Bool.and_eq_true, decide_eq_true_eq, decide_eq_true_eq] at hprintable
        exact .cons hprintable isLine_nil
      · exact isLine_codeEscape _

theorem isLine_stringText (t : Text) : IsLine (stringText t).toList := by
  rw [toList_stringText]
  refine .cons (by decide) (.append (fun c hc => ?_) (.cons (by decide) isLine_nil))
  obtain ⟨l, -, hl⟩ := List.mem_flatMap.1 hc
  exact isLine_escapedLetter l c hl

theorem IsNumber.isLine (h : IsNumber s) : IsLine s := by
  intro c hc
  have hnumber := h.isNumberChar c hc
  simp only [Json.isNumberChar, Bool.or_eq_true, decide_eq_true_eq] at hnumber
  rcases hnumber with ((((hdigit | rfl) | rfl) | rfl) | rfl) | rfl
  · have hbetween := Char.isDigit_iff_toNat.1 hdigit
    have hends : '0'.toNat = 0x30 ∧ '9'.toNat = 0x39 := ⟨rfl, rfl⟩
    omega
  all_goals decide

theorem isLine_joinedParts {parts : List (List Char)} (h : ∀ s ∈ parts, IsLine s) :
    IsLine (joinedParts parts) := by
  induction parts with
  | nil => exact isLine_nil
  | cons s parts ih =>
      rw [List.forall_mem_cons] at h
      cases parts with
      | nil =>
          rw [joinedParts_singleton]
          exact h.1
      | cons s' parts =>
          rw [joinedParts_cons_cons]
          exact h.1.append (.cons (by decide) (.cons (by decide) (ih h.2)))

end

/-! ### Data -/

structure Renders (d : Datum) (s : List Char) : Prop where
  reads : ReadsEnded d s
  line : IsLine s

theorem renders_text {t : Text} (h : t.IsUnpaired) : Renders (.text t) (stringText t).toList :=
  ⟨(reads_text h).ended, isLine_stringText t⟩

/-- Parts of a list or a mapping on a single line. -/
theorem isLine_bracketed {style : Style} (h : style.indent = none) (depth : Nat)
    {opening closing : Char} (hopening : 0x20 ≤ opening.toNat ∧ opening.toNat < 0x7F)
    (hclosing : 0x20 ≤ closing.toNat ∧ closing.toNat < 0x7F) {parts : List String}
    (hparts : ∀ s ∈ parts.map String.toList, IsLine s) :
    IsLine (bracketed style depth (String.ofList [opening]) (String.ofList [closing])
      parts).toList := by
  rw [toList_bracketed h]
  exact .cons hopening ((isLine_joinedParts hparts).append (.cons hclosing isLine_nil))

theorem renders_word {d : Datum} {s : List Char} (hne : s ≠ [])
    (hs : s.all (fun c => !isDelimiter c && 0x20 ≤ c.toNat && c.toNat < 0x7F) = true)
    (h : word? s = some d) : Renders d s := by
  have hall (c : Char) (hc : c ∈ s) := List.all_eq_true.1 hs c hc
  simp only [Bool.and_eq_true, Bool.not_eq_true', decide_eq_true_eq, and_assoc] at hall
  exact ⟨readsEnded_word hne (fun c hc => (hall c hc).1) h, fun c hc => (hall c hc).2⟩

theorem renders_null : Renders .null "null".toList :=
  renders_word (by decide) (by decide) (by rw [word?, constant?, if_pos rfl]; rfl)

theorem renders_truth (b : Bool) :
    Renders (.truth b) (if b then "true" else "false").toList := by
  cases b with
  | false =>
      rw [if_neg Bool.false_ne_true]
      refine renders_word (by decide) (by decide) ?_
      rw [word?, constant?, if_neg (by decide), if_neg (by decide), if_pos rfl]
      rfl
  | true =>
      rw [if_pos rfl]
      refine renders_word (by decide) (by decide) ?_
      rw [word?, constant?, if_neg (by decide), if_pos rfl]
      rfl

/-- The written items of a list, of which each renders what its item stands for. -/
theorem renders_items {ds : List Datum} {ss : List String} (depth : Nat)
    (h : List.Forall₂ (fun d s => Renders (spelled convert d) s.toList) ds ss) :
    Renders (.list (spelledItems convert ds))
      (bracketed ⟨false, none, convert⟩ depth "[" "]" ss).toList := by
  rw [show "[" = String.ofList ['['] from rfl, show "]" = String.ofList [']'] from rfl]
  constructor
  · rw [toList_bracketed rfl, spelledItems_eq_map]
    refine (reads_list ?_).ended
    rw [List.forall₂_map_left_iff, List.forall₂_map_right_iff]
    exact h.imp (fun _ _ hs => hs.reads)
  · refine isLine_bracketed rfl depth (by decide) (by decide) (List.forall_mem_map.2 ?_)
    intro s hs
    obtain ⟨d, -, hd⟩ := exists_mem_of_forall₂ h hs
    exact hd.line

def RendersEntry (convert : Datum → Option Text) (f : Text × Datum) (s : List Char) : Prop :=
  ReadsEntry (f.1, spelled convert f.2) s ∧ IsLine s

theorem rendersEntry_written {f : Text × Datum} {s : String} (hk : f.1.IsUnpaired)
    (h : Renders (spelled convert f.2) s.toList) :
    RendersEntry convert f (stringText f.1 ++ ": " ++ s).toList := by
  have hcolon : IsLine ": ".toList := .cons (by decide) (.cons (by decide) isLine_nil)
  refine ⟨readsEntry_written hk h.reads, ?_⟩
  rw [String.toList_append, String.toList_append]
  exact ((isLine_stringText f.1).append hcolon).append h.line

/-- The written entries of a mapping, of which each renders a key with what its value stands for. -/
theorem renders_entries {fs : List (Text × Datum)} {ss : List String} (depth : Nat)
    (hnodup : (fs.map Prod.fst).Nodup)
    (h : List.Forall₂ (RendersEntry convert) fs (ss.map String.toList)) :
    Renders (spelled convert (.object fs))
      (bracketed ⟨false, none, convert⟩ depth "\x7b" "\x7d" ss).toList := by
  rw [show "\x7b" = String.ofList ['\x7b'] from rfl, show "\x7d" = String.ofList ['\x7d'] from rfl,
    spelled_object]
  constructor
  · rw [toList_bracketed rfl]
    refine (reads_object ?_ (List.forall₂_map_left_iff.2 (h.imp (fun _ _ hs => hs.1)))).ended
    rw [List.map_map]
    exact hnodup
  · refine isLine_bracketed rfl depth (by decide) (by decide) (fun s hs => ?_)
    obtain ⟨f, -, hf⟩ := exists_mem_of_forall₂ h hs
    exact hf.2

def Converts (convert : Datum → Option Text) : Prop :=
  ∀ d : Datum, d.IsForeign → ∃ s : String, convert d = some s

theorem write_foreign {d : Datum} (h : d.IsForeign) {s : String} (hs : convert d = some s)
    (style : Style) (hstyle : style.convert = convert) (depth : Nat) :
    write style depth d = .ok (stringText s) ∧ spelled convert d = .text s := by
  subst hstyle
  cases h with
  | _ => exact ⟨by rw [write, hs] <;> simp, by rw [spelled, hs] <;> simp⟩

/-- Writable data are written on a single line and read back as what they stand for. -/
theorem exists_write {d : Datum} (h : d.IsWritable) (hconvert : Converts convert) (depth : Nat) :
    ∃ s, write ⟨false, none, convert⟩ depth d = .ok s ∧ Renders (spelled convert d) s.toList := by
  induction h generalizing depth with
  | null => exact ⟨_, rfl, renders_null⟩
  | truth b => exact ⟨_, rfl, renders_truth b⟩
  | @whole n short =>
      exact ⟨_, wholeText_of_holdsOverlong short, readsEnded_whole n, (isNumber_intText n).isLine⟩
  | double finite =>
      refine ⟨_, rfl, readsEnded_double finite, ?_⟩
      rw [FloatNotation.text, String.toList_ofList]
      exact (isNumber_chars finite).isLine
  | text unpaired => exact ⟨_, rfl, renders_text unpaired⟩
  | foreign hforeign =>
      obtain ⟨s, hs⟩ := hconvert _ hforeign
      obtain ⟨hwrite, hspelled⟩ := write_foreign hforeign hs ⟨false, none, convert⟩ rfl depth
      rw [hspelled]
      exact ⟨_, hwrite, renders_text (isUnpaired_of_isPlain (isPlain_ofString s))⟩
  | list items ih =>
      obtain ⟨ss, hss, hrenders⟩ := exists_writeItems (fun d hd => ih d hd (depth + 1))
      exact ⟨_, by rw [write, hss]; rfl, renders_items depth hrenders⟩
  | tuple items ih =>
      obtain ⟨ss, hss, hrenders⟩ := exists_writeItems (fun d hd => ih d hd (depth + 1))
      exact ⟨_, by rw [write, hss]; rfl, renders_items depth hrenders⟩
  | @object fs keys nodup values ih =>
      have hentry : ∀ f ∈ fs, ∃ s, write ⟨false, none, convert⟩ (depth + 1) f.2 = .ok s ∧
          RendersEntry convert f (stringText f.1 ++ ": " ++ s).toList := fun f hf => by
        obtain ⟨s, hs, hrenders⟩ := ih f hf (depth + 1)
        exact ⟨s, hs, rendersEntry_written (keys f hf) hrenders⟩
      obtain ⟨parts, hparts, hentries⟩ := exists_mapM_writtenEntry hentry
      refine ⟨_, ?_, renders_entries depth nodup hentries⟩
      rw [Datum.object, write, writeValues_eq_map, List.map_map]
      exact bind_eq_ok_iff.2 ⟨_, rfl, bind_eq_ok_iff.2 ⟨_, hparts, rfl⟩⟩

end Json

end Appraisal
