import Appraisal.Json.Plain
import Appraisal.Proofs.Json.Canonical
import Appraisal.Proofs.Json.Grammar
import Appraisal.Proofs.Number.Report

/-!
# What is written is JSON

Data of the kinds that JSON knows are always written, and all others but identifiers are converted to
such data. The text is a document by the standard exactly when every double in the data is finite: the
writer has names for the other doubles, and the standard has none. The main statements: `isJson_plain`,
`IsJson.exists_write` and, for the text in which a document is shown, `IsJson.exists_pretty`.
-/

namespace Appraisal

open Outcome Text

namespace Datum

inductive Holds (x : Float) : Datum → Prop
  | double : Holds x (.double x)
  | list {ds : List Datum} {d : Datum} (hd : d ∈ ds) (h : Holds x d) : Holds x (.list ds)
  | tuple {ds : List Datum} {d : Datum} (hd : d ∈ ds) (h : Holds x d) : Holds x (.tuple ds)
  | key {es : List (Datum × Datum)} {e : Datum × Datum} (he : e ∈ es) (h : Holds x e.1) :
      Holds x (.map es)
  | value {es : List (Datum × Datum)} {e : Datum × Datum} (he : e ∈ es) (h : Holds x e.2) :
      Holds x (.map es)

def AllFinite (d : Datum) : Prop := ∀ x, Holds x d → x.isFinite = true

theorem holds_list_iff {x : Float} {ds : List Datum} :
    Holds x (.list ds) ↔ ∃ d ∈ ds, Holds x d := by
  constructor
  · rintro (_ | ⟨hd, h⟩)
    exact ⟨_, hd, h⟩
  · rintro ⟨d, hd, h⟩
    exact .list hd h

theorem holds_object_iff {x : Float} {fs : List (Text × Datum)} :
    Holds x (.object fs) ↔ ∃ f ∈ fs, Holds x f.2 := by
  constructor
  · rintro (_ | _ | _ | ⟨he, h⟩ | ⟨he, h⟩)
    all_goals obtain ⟨f, hf, rfl⟩ := List.mem_map.1 he
    · cases h
    · exact ⟨f, hf, h⟩
  · rintro ⟨f, hf, h⟩
    exact .value (List.mem_map_of_mem hf) h

end Datum

namespace Json

/-! ### Numbers -/

section

variable {ds : List Nat}

theorem isDigits_map (hlt : ∀ d ∈ ds, d < 10) (hne : ds ≠ []) : IsDigits (ds.map digitChar) := by
  have hdigit : ∀ d < 10, (digitChar d).isDigit = true := by decide
  refine ⟨fun h => hne (List.map_eq_nil_iff.1 h), fun c hc => ?_⟩
  obtain ⟨d, hd, rfl⟩ := List.mem_map.1 hc
  exact hdigit d (hlt d hd)

theorem isInteger_map (hlt : ∀ d ∈ ds, d < 10) (hne : ds ≠ []) (h : Unpadded ds) :
    IsInteger (ds.map digitChar) := by
  rcases h with rfl | hhead
  · exact .zero
  · cases ds with
    | nil => exact absurd rfl hne
    | cons d ds =>
        refine .leading (fun hzero => hhead ?_) (isDigits_map hlt hne)
        exact congrArg some (digitChar_inj d (hlt d List.mem_cons_self) 0 (by decide) hzero)

end

theorem isInteger_digitsOf (n : Nat) : IsInteger (digitsOf n) := by
  obtain ⟨ds, hds, hlt, -⟩ := exists_digitsOf n
  have hne : ds ≠ [] := by
    rintro rfl
    exact digitsOf_ne_nil n hds
  rw [hds]
  exact isInteger_map hlt hne (unpadded_of_digitsOf hds hlt)

theorem isMagnitude_of_isInteger {s : List Char} (h : IsInteger s) : IsMagnitude s :=
  ⟨s, [], [], h, .none, .none, (List.append_nil s).symm⟩

theorem isNumber_intText (n : Int) : IsNumber (intText n).toList := by
  have hmagnitude := isMagnitude_of_isInteger (isInteger_digitsOf n.natAbs)
  rw [intText, String.toList_ofList]
  split
  · exact .negative hmagnitude
  · exact .positive hmagnitude

theorem isExponent_of_isEnding {ending : List Char} {e : Int} (h : Numeral.IsEnding ending e) :
    IsExponent ending := by
  cases h with
  | none => exact .none
  | written f e =>
      obtain ⟨ds, hds, hlt, -, hne, -⟩ := exists_padDigits f.exponentWidth e.natAbs
      refine .signed (.inl rfl) ?_ (hds ▸ isDigits_map hlt hne)
      split
      · exact .inr rfl
      · exact .inl rfl

theorem isMagnitude_unsigned {whole fraction : List Nat} {ending : List Char} {e : Int}
    (hwhole : ∀ d ∈ whole, d < 10) (hfraction : ∀ d ∈ fraction, d < 10) (hne : whole ≠ [])
    (hunpadded : Unpadded whole) (hending : Numeral.IsEnding ending e) :
    IsMagnitude (Numeral.unsigned whole fraction ending) := by
  refine ⟨_, _, _, isInteger_map hwhole hne hunpadded, ?_, isExponent_of_isEnding hending, rfl⟩
  split
  · exact .none
  · rename_i hpoint
    exact .point (isDigits_map hfraction hpoint)

theorem isNumber_signChars {s : List Char} (negative : Bool) (h : IsMagnitude s) :
    IsNumber (Numeral.signChars negative ++ s) := by
  cases negative with
  | false => exact .positive h
  | true => exact .negative h

/-- A finite double is written as a number. -/
theorem isNumber_chars {x : Float} (h : x.isFinite = true) : IsNumber (jsonNotation.chars x) := by
  obtain ⟨negative, m, q, hx⟩ := Binary.exists_ofFloat_eq_finite h
  have hchars : jsonNotation.chars x =
      Numeral.signChars negative ++ jsonNotation.magnitude m q := by
    rw [FloatNotation.chars, hx]
    rfl
  rw [hchars]
  by_cases hm : m = 0
  · have hzero : jsonNotation.magnitude m q = ['0'] ++ ('.' :: ['0'] ++ []) := by
      rw [hm]
      rfl
    rw [hzero]
    refine isNumber_signChars negative ⟨_, _, _, .zero, .point ⟨by simp, ?_⟩, .none, rfl⟩
    simp
  · obtain ⟨n, ⟨hwhole, hfraction, hne, ending, hending, heq⟩, hnegative, -, -, hunpadded⟩ :=
      FloatNotation.exists_isWrittenAs_magnitude (f := jsonNotation) rfl hx hm
    rw [heq]
    exact isNumber_signChars _ (isMagnitude_unsigned hwhole hfraction hne hunpadded hending)

/-- Every other double is written as its name. -/
theorem chars_of_not_isFinite {x : Float} (h : x.isFinite = false) :
    jsonNotation.chars x ∈ ["NaN".toList, "Infinity".toList, "-Infinity".toList] := by
  obtain hx | ⟨negative, hx⟩ := Binary.ofFloat_of_not_isFinite h
  · rw [FloatNotation.chars, hx]
    exact List.mem_cons_self
  · rw [FloatNotation.chars, hx]
    cases negative with
    | false => exact List.mem_cons_of_mem _ List.mem_cons_self
    | true => exact List.mem_cons_of_mem _ (List.mem_cons_of_mem _ List.mem_cons_self)

/-! ### Strings -/

theorem IsContent.append {s t : List Char} (hs : IsContent s) (ht : IsContent t) :
    IsContent (s ++ t) := by
  induction hs with
  | nil => exact ht
  | plain hcontrol hquote hslash _ ih => exact .plain hcontrol hquote hslash ih
  | short hc _ ih => exact .short hc ih
  | unit hlength hdigits _ ih =>
      rw [List.cons_append, List.cons_append, List.append_assoc]
      exact .unit hlength hdigits ih

theorem isHexDigit_of_mem_hex {width n : Nat} {c : Char} (h : c ∈ hex width n) :
    isHexDigit c = true := by
  have hdigit : ∀ d < 16, isHexDigit (hexDigit d) = true := by decide
  obtain ⟨d, hd, rfl⟩ := exists_hexDigit_of_mem_hex h
  exact hdigit d hd

theorem isContent_unitEscape (n : Nat) : IsContent (unitEscape n) := by
  rw [unitEscape, ← List.append_nil (hex 4 n)]
  exact .unit (length_hex 4 n) (fun c hc => isHexDigit_of_mem_hex hc) .nil

theorem isContent_codeEscape (n : Nat) : IsContent (codeEscape n) := by
  unfold codeEscape
  split
  · exact isContent_unitEscape n
  · exact (isContent_unitEscape _).append (isContent_unitEscape _)

theorem isContent_escapedLetter (l : Letter) : IsContent (escapedLetter l) := by
  cases l with
  | surrogate i => exact isContent_codeEscape _
  | char c =>
      unfold escapedLetter
      dsimp only
      split_ifs with hquote hslash _ _ _ _ _ hprintable
      · exact .short rfl .nil
      · exact .short rfl .nil
      · exact .short rfl .nil
      · exact .short rfl .nil
      · exact .short rfl .nil
      · exact .short rfl .nil
      · exact .short rfl .nil
      · rw [Bool.and_eq_true, decide_eq_true_eq] at hprintable
        exact .plain hprintable.1 hquote hslash .nil
      · exact isContent_codeEscape _

theorem isString_stringText (t : Text) : IsString (stringText t).toList := by
  refine ⟨_, ?_, toList_stringText t⟩
  induction t.toList with
  | nil => exact .nil
  | cons l ls ih =>
      rw [List.flatMap_cons]
      exact (isContent_escapedLetter l).append ih

/-! ### Brackets and commas -/

theorem isBlank_space : IsBlank [' '] := List.forall_mem_singleton.2 rfl

theorem isBlank_lineBreak (style : Style) (depth : Nat) :
    IsBlank (lineBreak style depth).toList := by
  unfold lineBreak
  cases style.indent with
  | none => exact isBlank_nil
  | some n =>
      intro c hc
      rw [String.toList_append, String.toList_ofList] at hc
      rcases List.mem_append.1 hc with hc | hc
      · rw [List.mem_singleton.1 hc]
        rfl
      · rw [String.toList_ofList] at hc
        rw [List.eq_of_mem_replicate hc]
        rfl

/-- Parts between brackets, with blanks around them and behind the commas. -/
theorem exists_bracketed_eq (style : Style) (depth : Nat) (opening closing : Char)
    {parts : List String} (hne : parts ≠ []) :
    ∃ before gap after, IsBlank before ∧ IsBlank gap ∧ IsBlank after ∧
      (bracketed style depth (String.ofList [opening]) (String.ofList [closing]) parts).toList =
        opening ::
          (before ++ ((',' :: gap).intercalate (parts.map String.toList) ++ after) ++ [closing]) := by
  have hempty : ¬ parts.isEmpty = true := fun h => hne (List.isEmpty_iff.1 h)
  have hbreak := isBlank_lineBreak style
  obtain ⟨gap, hgap, hcomma⟩ : ∃ gap, IsBlank gap ∧
      (if style.indent.isSome then "," ++ lineBreak style (depth + 1) else ", ").toList =
        ',' :: gap := by
    split
    · exact ⟨_, hbreak (depth + 1), by rw [String.toList_append]; rfl⟩
    · exact ⟨[' '], isBlank_space, rfl⟩
  refine ⟨_, gap, _, hbreak (depth + 1), hgap, hbreak depth, ?_⟩
  rw [bracketed, if_neg hempty]
  simp only [String.toList_append, String.toList_ofList, String.toList_intercalate, hcomma]
  simp only [List.cons_append, List.nil_append, List.append_assoc]

/-! ### Data -/

inductive IsJson : Datum → Prop
  | null : IsJson .null
  | truth (b : Bool) : IsJson (.truth b)
  | whole (n : Int) : IsJson (.whole n)
  | double (x : Float) : IsJson (.double x)
  | text (t : Text) : IsJson (.text t)
  | list {ds : List Datum} (items : ∀ d ∈ ds, IsJson d) : IsJson (.list ds)
  | object {fs : List (Text × Datum)} (values : ∀ f ∈ fs, IsJson f.2) : IsJson (.object fs)

/-- The data that are converted to such data: all but identifiers. -/
inductive IsConvertible : Datum → Prop
  | null : IsConvertible .null
  | truth (b : Bool) : IsConvertible (.truth b)
  | whole (n : Int) : IsConvertible (.whole n)
  | double (x : Float) : IsConvertible (.double x)
  | text (t : Text) : IsConvertible (.text t)
  | decimal (d : Decimal) : IsConvertible (.decimal d)
  | date (d : Date) : IsConvertible (.date d)
  | moment (t : Moment) : IsConvertible (.moment t)
  | member (kind name value : String) : IsConvertible (.member kind name value)
  | list {ds : List Datum} (items : ∀ d ∈ ds, IsConvertible d) : IsConvertible (.list ds)
  | tuple {ds : List Datum} (items : ∀ d ∈ ds, IsConvertible d) : IsConvertible (.tuple ds)
  | map {es : List (Datum × Datum)} (values : ∀ e ∈ es, IsConvertible e.2) : IsConvertible (.map es)

theorem plainItems_eq_map (ds : List Datum) : plainItems ds = ds.map plain := by
  induction ds with
  | nil => rfl
  | cons d ds ih => exact congrArg (plain d :: ·) ih

theorem plainEntries_eq_map (es : List (Datum × Datum)) :
    plainEntries es = es.map (fun e => (.text (plain e.1).display, plain e.2)) := by
  induction es with
  | nil => rfl
  | cons e es ih => rw [plainEntries, ih, plainEntry, List.map_cons]

theorem exists_setKey_eq {fs : List (Text × Datum)} (hfs : ∀ f ∈ fs, IsJson f.2) (k : Text)
    {v : Datum} (hv : IsJson v) :
    ∃ gs : List (Text × Datum), Datum.setKey (fs.map (fun f => (.text f.1, f.2))) (.text k) v =
      gs.map (fun g => (.text g.1, g.2)) ∧ ∀ g ∈ gs, IsJson g.2 := by
  unfold Datum.setKey
  split
  · refine ⟨fs.map (fun f => if Datum.same (.text k) (.text f.1) then (f.1, v) else f), ?_, ?_⟩
    · rw [List.map_map, List.map_map]
      refine List.map_congr_left (fun f _ => ?_)
      dsimp only [Function.comp_apply]
      split <;> rfl
    · refine List.forall_mem_map.2 (fun f hf => ?_)
      split
      · exact hv
      · exact hfs f hf
  · refine ⟨fs ++ [(k, v)], by rw [List.map_append]; rfl, ?_⟩
    exact List.forall_mem_append.2 ⟨hfs, List.forall_mem_singleton.2 hv⟩

theorem isJson_ofPairs {es : List (Datum × Datum)} (h : ∀ e ∈ es, IsJson (plain e.2)) :
    IsJson (Datum.ofPairs (plainEntries es)) := by
  have hfold (fs : List (Text × Datum)) (hfs : ∀ f ∈ fs, IsJson f.2) :
      IsJson (.map ((plainEntries es).foldl (fun acc p => Datum.setKey acc p.1 p.2)
        (fs.map (fun f => (.text f.1, f.2))))) := by
    rw [plainEntries_eq_map]
    induction es generalizing fs with
    | nil => exact .object hfs
    | cons e es ih =>
        rw [List.forall_mem_cons] at h
        obtain ⟨gs, hgs, hjson⟩ := exists_setKey_eq hfs (plain e.1).display h.1
        rw [List.map_cons, List.foldl_cons, hgs]
        exact ih h.2 gs hjson
  exact hfold [] nofun

/-- Conversion leaves nothing that JSON does not know, so that the result can be written. -/
theorem isJson_plain {d : Datum} (h : IsConvertible d) : IsJson (plain d) := by
  induction h with
  | null => exact .null
  | truth b => exact .truth b
  | whole n => exact .whole n
  | double x => exact .double x
  | text t => exact .text t
  | decimal d => exact .text _
  | date d => exact .text _
  | moment t => exact .text _
  | member kind name value => exact .text value
  | list _ ih =>
      rw [plain, plainItems_eq_map]
      exact .list (List.forall_mem_map.2 ih)
  | tuple _ ih =>
      rw [plain, plainItems_eq_map]
      exact .list (List.forall_mem_map.2 ih)
  | map _ ih =>
      rw [plain]
      exact isJson_ofPairs ih

/-- A text that holds doubles: it follows a rule of the grammar if all of them are finite, and the
names of the others stand outside its strings. -/
structure Spells (holds : Float → Prop) (rule : List Char → Prop) (s : List Char) : Prop where
  derives : (∀ x, holds x → x.isFinite = true) → rule s
  closed : Closed s
  names : ∀ x, holds x → x.isFinite = false → Names s

section

variable {holds holds' : Float → Prop} {rule rule' : List Char → Prop} {s t : List Char}

theorem spells_of_nameless (hs : Derives .value s) (h : ∀ x, ¬ holds x) :
    Spells holds (Derives .value) s :=
  ⟨fun _ => hs, hs.nameless.closed, fun x hx => absurd hx (h x)⟩

theorem Spells.congr (h : Spells holds rule s) (hiff : ∀ x, holds' x ↔ holds x) :
    Spells holds' rule s :=
  ⟨fun hfinite => h.derives (fun x hx => hfinite x ((hiff x).2 hx)), h.closed,
    fun x hx => h.names x ((hiff x).1 hx)⟩

theorem Spells.between {l r : List Char} (h : Spells holds rule s) (hl : Closed l) (hr : Closed r)
    (hrule : rule s → rule' (l ++ (s ++ r))) : Spells holds rule' (l ++ (s ++ r)) :=
  ⟨fun hfinite => hrule (h.derives hfinite), hl.append (h.closed.append hr), fun x hx hfinite =>
    (names_append hl).2 (.inr ((names_append h.closed).2 (.inl (h.names x hx hfinite))))⟩

theorem Spells.followed {rule'' : List Char → Prop} {c : List Char} (h : Spells holds rule s)
    (h' : Spells holds' rule' t) (hc : Closed c)
    (hrule : rule s → rule' t → rule'' (s ++ (c ++ t))) :
    Spells (fun x => holds x ∨ holds' x) rule'' (s ++ (c ++ t)) := by
  refine ⟨fun hfinite => hrule (h.derives (fun x hx => hfinite x (.inl hx)))
    (h'.derives (fun x hx => hfinite x (.inr hx))), h.closed.append (hc.append h'.closed),
    fun x hx hfinite => (names_append h.closed).2 ?_⟩
  rcases hx with hx | hx
  · exact .inl (h.names x hx hfinite)
  · exact .inr ((names_append hc).2 (.inr (h'.names x hx hfinite)))

theorem Spells.padded {category : Category} {before after : List Char}
    (h : Spells holds (Padded category) s) (hb : IsBlank before) (ha : IsBlank after) :
    Spells holds (Derives category) (before ++ (s ++ after)) :=
  h.between hb.nameless.closed ha.nameless.closed (fun hs => hs before after hb ha)

theorem Spells.element (h : Spells holds (Derives .value) s) : Spells holds (Padded .element) s :=
  ⟨fun hfinite _ _ hb ha => .element hb (h.derives hfinite) ha, h.closed, h.names⟩

/-- A text alone is a document exactly when all doubles in it are finite. -/
theorem Spells.isDocument_iff (h : Spells holds (Derives .value) s) :
    IsDocument s ↔ ∀ x, holds x → x.isFinite = true := by
  refine ⟨fun hs x hx => ?_, fun hfinite => ?_⟩
  · by_contra hne
    exact hs.not_names (h.names x hx (Bool.not_eq_true _ ▸ hne))
  · rw [← List.append_nil s]
    exact .element isBlank_nil (h.derives hfinite) isBlank_nil

theorem Spells.member (h : Spells holds (Derives .value) s) (key : Text) :
    Spells holds (Padded .member) ((stringText key).toList ++ ':' :: ' ' :: s) := by
  have hkey := isString_stringText key
  have hcolon : Closed [':', ' '] := closed_of_no_quote (by decide)
  have hmember : Spells holds (Padded .member)
      (((stringText key).toList ++ [':', ' ']) ++ (s ++ [])) := by
    refine h.between (hkey.closed.append hcolon) (closed_of_no_quote List.not_mem_nil)
      (fun hs before after hb ha => ?_)
    have hpadded := Derives.member hb hkey isBlank_nil (.element isBlank_space hs ha)
    simpa using hpadded
  simpa using hmember

end

theorem spells_double (x : Float) :
    Spells (Datum.Holds · (.double x)) (Derives .value) (jsonNotation.text x).toList := by
  have hself {y : Float} (h : Datum.Holds y (.double x)) : y = x := by
    cases h
    rfl
  rw [FloatNotation.text, String.toList_ofList]
  cases hfinite : x.isFinite with
  | true =>
      have hnumber := Derives.number (isNumber_chars hfinite)
      refine ⟨fun _ => hnumber, hnumber.nameless.closed, fun y hy hne => ?_⟩
      rw [hself hy, hfinite] at hne
      cases hne
  | false =>
      have hname : ∀ s ∈ ["NaN".toList, "Infinity".toList, "-Infinity".toList],
          '"' ∉ s ∧ ('N' ∈ s ∨ 'I' ∈ s) := by decide
      obtain ⟨hquote, hnames⟩ := hname _ (chars_of_not_isFinite hfinite)
      refine ⟨fun hall => ?_, closed_of_no_quote hquote,
        fun _ _ _ => (names_of_no_quote hquote).2 hnames⟩
      exact absurd (hall x .double) (by simp [hfinite])

structure IsBracket (opening closing : Char) (item items : Category) : Prop where
  empty : Derives .value [opening, closing]
  wrapped : ∀ {s}, Derives items s → Derives .value (opening :: (s ++ [closing]))
  last : ∀ {s}, Derives item s → Derives items s
  next : ∀ {s rest}, Derives item s → Derives items rest → Derives items (s ++ ',' :: rest)
  closed : Closed [opening] ∧ Closed [closing]

theorem isBracket_array : IsBracket '[' ']' .element .elements :=
  ⟨.emptyArray isBlank_nil, .array, .lastElement, .nextElement,
    closed_of_no_quote (by decide), closed_of_no_quote (by decide)⟩

theorem isBracket_object : IsBracket '\x7b' '\x7d' .member .members :=
  ⟨.emptyObject isBlank_nil, .object, .lastMember, .nextMember,
    closed_of_no_quote (by decide), closed_of_no_quote (by decide)⟩

section

variable {opening closing : Char} {item items : Category}
  (hbracket : IsBracket opening closing item items) {α : Type} {holds : α → Float → Prop}
include hbracket

/-- Items with commas between them hold what one of them holds. -/
theorem spells_intercalate {a : α} {as : List α} {s : List Char} {ss : List (List Char)}
    {before gap after : List Char} (hb : IsBlank before) (hg : IsBlank gap) (ha : IsBlank after)
    (h : Spells (holds a) (Padded item) s)
    (hs : List.Forall₂ (fun a s => Spells (holds a) (Padded item) s) as ss) :
    Spells (fun x => ∃ a' ∈ a :: as, holds a' x) (Derives items)
      (before ++ ((',' :: gap).intercalate (s :: ss) ++ after)) := by
  induction hs generalizing a s before with
  | nil =>
      have hlast := h.padded hb ha
      rw [List.intercalate_singleton]
      exact Spells.congr ⟨fun hfinite => hbracket.last (hlast.derives hfinite), hlast.closed,
        hlast.names⟩ (by simp)
  | cons h' _ ih =>
      -- the blanks behind a comma are those in front of the next item
      have hfirst := h.padded hb isBlank_nil
      have hcomma : Closed [','] := closed_of_no_quote (by decide)
      have hall := hfirst.followed (ih hg h') hcomma hbracket.next
      rw [List.append_nil] at hall
      rw [List.intercalate_cons_cons]
      simp only [List.append_assoc, List.cons_append] at hall ⊢
      exact hall.congr (by simp)

/-- Parts between brackets hold what one of the parts holds. -/
theorem spells_bracketed (style : Style) (depth : Nat) {as : List α} {parts : List String}
    (h : List.Forall₂ (fun a s => Spells (holds a) (Padded item) s) as
      (parts.map String.toList)) :
    Spells (fun x => ∃ a ∈ as, holds a x) (Derives .value)
      (bracketed style depth (String.ofList [opening]) (String.ofList [closing]) parts).toList := by
  cases parts with
  | nil =>
      obtain rfl := List.forall₂_nil_right_iff.1 h
      have hempty : bracketed style depth (String.ofList [opening]) (String.ofList [closing]) [] =
          String.ofList [opening, closing] := by
        rw [bracketed, if_pos (show ([] : List String).isEmpty = true from rfl),
          ← String.ofList_append]
        rfl
      rw [hempty, String.toList_ofList]
      exact spells_of_nameless hbracket.empty (by simp)
  | cons part parts =>
      obtain ⟨before, gap, after, hb, hg, ha, heq⟩ :=
        exists_bracketed_eq style depth opening closing (List.cons_ne_nil part parts)
      rw [List.map_cons] at h heq
      obtain ⟨a, as, hfirst, hrest, rfl⟩ := List.forall₂_cons_right_iff.1 h
      rw [heq]
      exact (spells_intercalate hbracket hb hg ha hfirst hrest).between hbracket.closed.1
        hbracket.closed.2 hbracket.wrapped

end

/-! ### Writing -/

theorem exists_mapM_spells {style : Style} {depth : Nat} {fs : List (Text × Datum)}
    (h : ∀ f ∈ fs, ∃ s, write style depth f.2 = .ok s ∧
      Spells (Datum.Holds · f.2) (Derives .value) s.toList) :
    ∃ parts, (writeValues style depth (fs.map (fun f => (Datum.text f.1, f.2)))).mapM writtenEntry =
        .ok parts ∧
      List.Forall₂ (fun f s => Spells (Datum.Holds · f.2) (Padded .member) s) fs
        (parts.map String.toList) := by
  rw [writeValues_eq_map, List.map_map]
  refine exists_mapM_writtenEntry
    (P := fun f s => Spells (Datum.Holds · f.2) (Padded .member) s) (fun f hf => ?_)
  obtain ⟨s, hs, hspells⟩ := h f hf
  refine ⟨s, hs, ?_⟩
  rw [String.toList_append, String.toList_append, List.append_assoc]
  exact hspells.member f.1

/-- Data of the kinds of JSON are written, with any indentation, if no whole number has too many
digits. -/
theorem IsJson.exists_write {d : Datum} (h : IsJson d) (hd : d.holdsOverlong = false)
    (indent : Option Nat) (convert : Datum → Option Text) (depth : Nat) :
    ∃ s, write ⟨false, indent, convert⟩ depth d = .ok s ∧
      Spells (Datum.Holds · d) (Derives .value) s.toList := by
  induction h generalizing depth with
  | null => exact ⟨_, rfl, spells_of_nameless .null nofun⟩
  | truth b =>
      refine ⟨_, rfl, spells_of_nameless ?_ nofun⟩
      cases b with
      | false => exact .false
      | true => exact .true
  | whole n =>
      refine ⟨_, wholeText_of_holdsOverlong hd, ?_⟩
      exact spells_of_nameless (.number (isNumber_intText n)) nofun
  | double x => exact ⟨_, rfl, spells_double x⟩
  | text t => exact ⟨_, rfl, spells_of_nameless (.string (isString_stringText t)) nofun⟩
  | @list ds items ih =>
      obtain ⟨ss, hss, hspells⟩ := exists_writeItems
        (fun d' hd' => ih d' hd' (Datum.holdsOverlong_list_iff.1 hd d' hd') (depth + 1))
      have hparts : List.Forall₂ (fun d s => Spells (Datum.Holds · d) (Padded .element) s) ds
          (ss.map String.toList) :=
        List.forall₂_map_right_iff.2 (hspells.imp (fun _ _ hs => hs.element))
      refine ⟨_, by rw [write, hss]; rfl, ?_⟩
      exact (spells_bracketed isBracket_array _ depth hparts).congr (fun _ => Datum.holds_list_iff)
  | @object fs values ih =>
      obtain ⟨parts, hparts, hspells⟩ := exists_mapM_spells
        (fun f hf => ih f hf (Datum.holdsOverlong_object_iff.1 hd f hf) (depth + 1))
      refine ⟨_, by rw [Datum.object, write]; exact
        bind_eq_ok_iff.2 ⟨_, rfl, bind_eq_ok_iff.2 ⟨_, hparts, rfl⟩⟩, ?_⟩
      exact (spells_bracketed isBracket_object _ depth hspells).congr
        (fun _ => Datum.holds_object_iff)

/-- The text in which a datum is shown is a document exactly when all doubles in it are finite. -/
theorem IsJson.exists_pretty {d : Datum} (h : IsJson d) (hd : d.holdsOverlong = false) :
    ∃ s, pretty d = .ok s ∧ (IsDocument s.toList ↔ d.AllFinite) := by
  obtain ⟨s, hs, hspells⟩ := h.exists_write hd (some 2) (fun _ => none) 0
  refine ⟨s, hs, hspells.isDocument_iff⟩

end Json

end Appraisal
