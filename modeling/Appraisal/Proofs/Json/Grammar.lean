import Mathlib.Tactic.Common
import Appraisal.Json.Reader

/-!
# The grammar of JSON

JSON documents by the rules of the standard, whatever the library reads and writes. A document is a
value between blanks; a value is a constant, a number, a string, an array or an object. The reader
decides of a word whether it is a number of this grammar. The names of the doubles that are not finite
are no values, and no document has a letter of them outside its strings. The main statements:
`isNumeral_iff` and `IsDocument.not_names`.
-/

namespace Appraisal.Json

/-! ### Numbers -/

def IsDigits (s : List Char) : Prop := s ≠ [] ∧ ∀ c ∈ s, c.isDigit = true

/-- Digits without a zero in front of others. -/
inductive IsInteger : List Char → Prop
  | zero : IsInteger ['0']
  | leading {c : Char} {s : List Char} (hne : c ≠ '0') (digits : IsDigits (c :: s)) :
      IsInteger (c :: s)

inductive IsFraction : List Char → Prop
  | none : IsFraction []
  | point {s : List Char} (digits : IsDigits s) : IsFraction ('.' :: s)

inductive IsExponent : List Char → Prop
  | none : IsExponent []
  | unsigned {e : Char} {s : List Char} (mark : e = 'e' ∨ e = 'E') (digits : IsDigits s) :
      IsExponent (e :: s)
  | signed {e sign : Char} {s : List Char} (mark : e = 'e' ∨ e = 'E')
      (hsign : sign = '+' ∨ sign = '-') (digits : IsDigits s) : IsExponent (e :: sign :: s)

def IsMagnitude (s : List Char) : Prop :=
  ∃ whole fraction exponent, IsInteger whole ∧ IsFraction fraction ∧ IsExponent exponent ∧
    s = whole ++ (fraction ++ exponent)

inductive IsNumber : List Char → Prop
  | positive {s : List Char} (h : IsMagnitude s) : IsNumber s
  | negative {s : List Char} (h : IsMagnitude s) : IsNumber ('-' :: s)

/-! ### Reading numbers -/

section

variable {s t : List Char}

def IsUndigited (t : List Char) : Prop := ∀ c ∈ t.head?, c.isDigit = false

theorem IsDigits.exists_cons (h : IsDigits s) : ∃ c ds, s = c :: ds ∧ c.isDigit = true := by
  obtain ⟨c, ds, rfl⟩ := List.exists_cons_of_ne_nil h.1
  exact ⟨c, ds, rfl, h.2 c List.mem_cons_self⟩

theorem behindDigits?_append (h : IsDigits s) (ht : IsUndigited t) :
    behindDigits? (s ++ t) = some t := by
  obtain ⟨c, ds, rfl, hc⟩ := h.exists_cons
  have hdrop : t.dropWhile Char.isDigit = t := by
    cases t with
    | nil => rfl
    | cons c t => exact List.dropWhile_cons_of_neg (by simp [ht c rfl])
  rw [List.cons_append, behindDigits?, if_pos hc,
    List.dropWhile_append_of_pos (fun c' hc' => h.2 c' (List.mem_cons_of_mem _ hc')), hdrop]

theorem exists_digits (h : behindDigits? s = some t) : ∃ ds, IsDigits ds ∧ s = ds ++ t := by
  cases s with
  | nil => cases h
  | cons c s =>
      rw [behindDigits?] at h
      split at h
      · rename_i hc
        obtain rfl := Option.some.inj h
        refine ⟨c :: s.takeWhile Char.isDigit, ⟨List.cons_ne_nil _ _, ?_⟩, ?_⟩
        · exact List.forall_mem_cons.2 ⟨hc, fun c' hc' => List.all_eq_true.1 List.all_takeWhile c' hc'⟩
        · rw [List.cons_append, List.takeWhile_append_dropWhile]
      · cases h

theorem behindInteger?_append (h : IsInteger s) (ht : IsUndigited t) :
    behindInteger? (s ++ t) = some t := by
  cases h with
  | zero => rfl
  | leading hne digits =>
      rw [← behindDigits?_append digits ht, List.cons_append, behindInteger?]
      simpa using hne

theorem exists_integer (h : behindInteger? s = some t) : ∃ w, IsInteger w ∧ s = w ++ t := by
  unfold behindInteger? at h
  split at h
  · obtain rfl := Option.some.inj h
    exact ⟨_, .zero, rfl⟩
  · rename_i hzero
    obtain ⟨ds, hds, rfl⟩ := exists_digits h
    obtain ⟨c, ds, rfl, -⟩ := hds.exists_cons
    exact ⟨_, .leading (fun hc => hzero _ (by rw [hc, List.cons_append])) hds, rfl⟩

theorem behindFraction?_append (h : IsFraction s) (ht : IsUndigited t)
    (hpoint : ∀ c ∈ t.head?, c ≠ '.') : behindFraction? (s ++ t) = some t := by
  cases h with
  | none =>
      rw [List.nil_append]
      unfold behindFraction?
      split
      · exact absurd rfl (hpoint '.' rfl)
      · rfl
  | point digits => exact behindDigits?_append digits ht

theorem exists_fraction (h : behindFraction? s = some t) : ∃ f, IsFraction f ∧ s = f ++ t := by
  unfold behindFraction? at h
  split at h
  · obtain ⟨ds, hds, rfl⟩ := exists_digits h
    exact ⟨_, .point hds, rfl⟩
  · obtain rfl := Option.some.inj h
    exact ⟨[], .none, rfl⟩

theorem behindSign_of_isDigit {c : Char} (hc : c.isDigit = true) (s : List Char) :
    behindSign (c :: s) = c :: s := by
  unfold behindSign
  split
  · rename_i heq
    exact absurd ((List.cons.inj heq).1 ▸ hc) (by decide)
  · rename_i heq
    exact absurd ((List.cons.inj heq).1 ▸ hc) (by decide)
  · rfl

theorem exists_sign (s : List Char) :
    s = behindSign s ∨ ∃ sign, (sign = '+' ∨ sign = '-') ∧ s = sign :: behindSign s := by
  unfold behindSign
  split
  · exact .inr ⟨_, .inl rfl, rfl⟩
  · exact .inr ⟨_, .inr rfl, rfl⟩
  · exact .inl rfl

theorem behindExponent?_eq_nil (h : IsExponent s) : behindExponent? s = some [] := by
  have hall {ds : List Char} (hds : IsDigits ds) : behindDigits? ds = some [] := by
    have hnone : IsUndigited [] := nofun
    simpa using behindDigits?_append hds hnone
  cases h with
  | none => rfl
  | unsigned mark digits =>
      obtain ⟨c, ds, rfl, hc⟩ := digits.exists_cons
      rw [behindExponent?, if_pos mark, behindSign_of_isDigit hc, hall digits]
  | @signed _ sign s mark hsign digits =>
      have hbehind : behindSign (sign :: s) = s := by rcases hsign with rfl | rfl <;> rfl
      rw [behindExponent?, if_pos mark, hbehind, hall digits]

theorem exists_exponent (h : behindExponent? s = some t) : ∃ e, IsExponent e ∧ s = e ++ t := by
  cases s with
  | nil =>
      obtain rfl := Option.some.inj h
      exact ⟨[], .none, rfl⟩
  | cons c s =>
      rw [behindExponent?] at h
      split at h
      · rename_i mark
        obtain ⟨ds, hds, heq⟩ := exists_digits h
        rcases exists_sign s with hs | ⟨sign, hsign, hs⟩
        · exact ⟨c :: ds, .unsigned mark hds, by rw [hs, heq, List.cons_append]⟩
        · refine ⟨c :: sign :: ds, .signed mark hsign hds, ?_⟩
          rw [hs, heq, List.cons_append, List.cons_append]
      · obtain rfl := Option.some.inj h
        exact ⟨[], .none, rfl⟩

/-- Neither a digit nor a point is at the head of an exponent. -/
theorem IsExponent.head (h : IsExponent s) : ∀ c ∈ s.head?, c.isDigit = false ∧ c ≠ '.' := by
  cases h with
  | none => simp
  | unsigned mark _ => rcases mark with rfl | rfl <;> simp
  | signed mark _ _ => rcases mark with rfl | rfl <;> simp

theorem isMagnitude_iff : isMagnitude s = true ↔ IsMagnitude s := by
  rw [isMagnitude, decide_eq_true_eq]
  constructor
  · intro h
    obtain ⟨u, hu, he⟩ := Option.bind_eq_some_iff.1 h
    obtain ⟨t, ht, hf⟩ := Option.bind_eq_some_iff.1 hu
    obtain ⟨whole, hwhole, rfl⟩ := exists_integer ht
    obtain ⟨fraction, hfraction, rfl⟩ := exists_fraction hf
    obtain ⟨exponent, hexponent, rfl⟩ := exists_exponent he
    exact ⟨whole, fraction, exponent, hwhole, hfraction, hexponent, by rw [List.append_nil]⟩
  · rintro ⟨whole, fraction, exponent, hwhole, hfraction, hexponent, rfl⟩
    have hundigited : IsUndigited exponent := fun c hc => (hexponent.head c hc).1
    have hbehind : IsUndigited (fraction ++ exponent) := by
      cases hfraction with
      | none => exact hundigited
      | point _ => rintro c hc; obtain rfl := Option.some.inj hc; rfl
    rw [behindInteger?_append hwhole hbehind, Option.bind_some,
      behindFraction?_append hfraction hundigited (fun c hc => (hexponent.head c hc).2),
      Option.bind_some, behindExponent?_eq_nil hexponent]

theorem IsMagnitude.ne_minus (h : IsMagnitude ('-' :: s)) : False := by
  obtain ⟨whole, fraction, exponent, hwhole, -, -, heq⟩ := h
  cases hwhole with
  | zero => simp at heq
  | @leading c ds _ digits =>
      obtain rfl : '-' = c := (List.cons.inj heq).1
      exact absurd (digits.2 '-' List.mem_cons_self) (by decide)

/-- The check of the reader decides the grammar of numbers. -/
theorem isNumeral_iff : isNumeral s = true ↔ IsNumber s := by
  unfold isNumeral
  split
  · rw [isMagnitude_iff]
    refine ⟨.negative, fun h => ?_⟩
    cases h with
    | positive h => exact h.ne_minus.elim
    | negative h => exact h
  · rename_i hsign
    rw [isMagnitude_iff]
    refine ⟨.positive, fun h => ?_⟩
    cases h with
    | positive h => exact h
    | negative h => exact absurd rfl (hsign _)

end

/-! ### Strings -/

def isShortEscape (c : Char) : Bool := c ∈ ['"', '\\', '/', 'b', 'f', 'n', 'r', 't']

def isHexDigit (c : Char) : Bool :=
  c.isDigit || ('a' ≤ c && c ≤ 'f') || ('A' ≤ c && c ≤ 'F')

inductive IsContent : List Char → Prop
  | nil : IsContent []
  | plain {c : Char} {s : List Char} (hcontrol : 0x20 ≤ c.toNat) (hquote : c ≠ '"')
      (hslash : c ≠ '\\') (rest : IsContent s) : IsContent (c :: s)
  | short {c : Char} {s : List Char} (hc : isShortEscape c = true) (rest : IsContent s) :
      IsContent ('\\' :: c :: s)
  | unit {digits s : List Char} (hlength : digits.length = 4)
      (hdigits : ∀ c ∈ digits, isHexDigit c = true) (rest : IsContent s) :
      IsContent ('\\' :: 'u' :: (digits ++ s))

def IsString (s : List Char) : Prop := ∃ content, IsContent content ∧ s = '"' :: (content ++ ['"'])

/-! ### Values -/

def IsBlank (s : List Char) : Prop := ∀ c ∈ s, isSpace c = true

inductive Category
  | value
  /-- A value between blanks. -/
  | element
  | elements
  /-- A name and an element. -/
  | member
  | members

inductive Derives : Category → List Char → Prop
  | null : Derives .value "null".toList
  | true : Derives .value "true".toList
  | false : Derives .value "false".toList
  | number {s : List Char} (h : IsNumber s) : Derives .value s
  | string {s : List Char} (h : IsString s) : Derives .value s
  | emptyArray {blank : List Char} (hb : IsBlank blank) : Derives .value ('[' :: (blank ++ [']']))
  | array {s : List Char} (h : Derives .elements s) : Derives .value ('[' :: (s ++ [']']))
  | emptyObject {blank : List Char} (hb : IsBlank blank) :
      Derives .value ('\x7b' :: (blank ++ ['\x7d']))
  | object {s : List Char} (h : Derives .members s) : Derives .value ('\x7b' :: (s ++ ['\x7d']))
  | element {before s after : List Char} (hb : IsBlank before) (h : Derives .value s)
      (ha : IsBlank after) : Derives .element (before ++ (s ++ after))
  | lastElement {s : List Char} (h : Derives .element s) : Derives .elements s
  | nextElement {s rest : List Char} (h : Derives .element s) (hr : Derives .elements rest) :
      Derives .elements (s ++ ',' :: rest)
  | member {before name after s : List Char} (hb : IsBlank before) (hn : IsString name)
      (ha : IsBlank after) (h : Derives .element s) :
      Derives .member (before ++ (name ++ (after ++ ':' :: s)))
  | lastMember {s : List Char} (h : Derives .member s) : Derives .members s
  | nextMember {s rest : List Char} (h : Derives .member s) (hr : Derives .members rest) :
      Derives .members (s ++ ',' :: rest)

def IsDocument (s : List Char) : Prop := Derives .element s

theorem isBlank_nil : IsBlank [] := fun _ h => absurd h List.not_mem_nil

def Padded (category : Category) (s : List Char) : Prop :=
  ∀ before after, IsBlank before → IsBlank after → Derives category (before ++ (s ++ after))

/-! ### Outside the strings -/

/-- The characters outside the quotes, if one starts inside of them or outside. -/
def outside : Bool → List Char → List Char
  | _, [] => []
  | false, c :: s => if c = '"' then outside true s else c :: outside false s
  | true, '\\' :: _ :: s => outside true s
  | true, c :: s => if c = '"' then outside false s else outside true s

def Closed (s : List Char) : Prop := ∀ t, outside false (s ++ t) = outside false s ++ outside false t

/-- A letter of the name of a double that is not finite stands outside the quotes. -/
def Names (s : List Char) : Prop := 'N' ∈ outside false s ∨ 'I' ∈ outside false s

variable {s t : List Char} {c : Char}

theorem outside_of_no_quote (h : '"' ∉ s) (t : List Char) :
    outside false (s ++ t) = s ++ outside false t := by
  induction s with
  | nil => rfl
  | cons c s ih =>
      rw [List.mem_cons, not_or] at h
      rw [List.cons_append, outside, if_neg (Ne.symm h.1), ih h.2, List.cons_append]

theorem outside_eq_self (h : '"' ∉ s) : outside false s = s := by
  simpa [outside] using outside_of_no_quote h []

theorem closed_of_no_quote (h : '"' ∉ s) : Closed s := fun t => by
  rw [outside_of_no_quote h, outside_eq_self h]

theorem Closed.append (hs : Closed s) (ht : Closed t) : Closed (s ++ t) := fun u => by
  rw [List.append_assoc, hs, ht, hs, List.append_assoc]

theorem names_append (hs : Closed s) : Names (s ++ t) ↔ Names s ∨ Names t := by
  unfold Names
  rw [hs t, List.mem_append, List.mem_append, or_or_or_comm]

theorem names_of_no_quote (h : '"' ∉ s) : Names s ↔ 'N' ∈ s ∨ 'I' ∈ s := by
  rw [Names, outside_eq_self h]

theorem outside_plain (hquote : c ≠ '"') (hslash : c ≠ '\\') (s : List Char) :
    outside true (c :: s) = outside true s := by
  rw [outside.eq_def]
  split
  · contradiction
  · contradiction
  · rename_i heq
    exact absurd (List.cons.inj heq).1 hslash
  · rename_i heq
    obtain ⟨rfl, rfl⟩ := List.cons.inj heq
    exact if_neg hquote

theorem outside_plains (h : ∀ c ∈ s, c ≠ '"' ∧ c ≠ '\\') (t : List Char) :
    outside true (s ++ t) = outside true t := by
  induction s with
  | nil => rfl
  | cons c s ih =>
      obtain ⟨hquote, hslash⟩ := h c List.mem_cons_self
      rw [List.cons_append, outside_plain hquote hslash]
      exact ih (fun c hc => h c (List.mem_cons_of_mem _ hc))

theorem IsContent.outside_eq (h : IsContent s) (t : List Char) :
    outside true (s ++ '"' :: t) = outside false t := by
  have hhex {c : Char} (hc : isHexDigit c = true) : c ≠ '"' ∧ c ≠ '\\' := by
    constructor
    all_goals
      rintro rfl
      exact absurd hc (by decide)
  induction h with
  | nil => rfl
  | plain _ hquote hslash _ ih =>
      rw [List.cons_append, outside_plain hquote hslash, ih]
  | short _ _ ih => exact ih
  | unit _ hdigits _ ih =>
      rw [List.cons_append, List.cons_append, outside, List.append_assoc,
        outside_plains (fun c hc => hhex (hdigits c hc)), ih]

theorem IsString.outside_eq (h : IsString s) (t : List Char) :
    outside false (s ++ t) = outside false t := by
  obtain ⟨content, hcontent, rfl⟩ := h
  rw [List.cons_append, outside, if_pos rfl, List.append_assoc, List.singleton_append,
    hcontent.outside_eq]

theorem IsString.closed (h : IsString s) : Closed s := fun t => by
  have hnil := h.outside_eq []
  rw [List.append_nil] at hnil
  rw [h.outside_eq, hnil]
  rfl

theorem IsString.not_names (h : IsString s) : ¬ Names s := by
  have hnil := h.outside_eq []
  rw [List.append_nil] at hnil
  rw [Names, hnil]
  exact fun h => h.elim List.not_mem_nil List.not_mem_nil

/-! ### Characters of numbers -/

def isNumberChar (c : Char) : Bool :=
  c.isDigit || c = '-' || c = '+' || c = '.' || c = 'e' || c = 'E'

theorem IsDigits.isNumberChar (h : IsDigits s) : ∀ c ∈ s, isNumberChar c = true := fun c hc => by
  simp [Json.isNumberChar, h.2 c hc]

theorem IsExponent.isNumberChar (h : IsExponent s) : ∀ c ∈ s, isNumberChar c = true := by
  cases h with
  | none => simp
  | unsigned mark digits =>
      refine List.forall_mem_cons.2 ⟨?_, digits.isNumberChar⟩
      rcases mark with rfl | rfl <;> rfl
  | signed mark hsign digits =>
      refine List.forall_mem_cons.2 ⟨?_, List.forall_mem_cons.2 ⟨?_, digits.isNumberChar⟩⟩
      · rcases mark with rfl | rfl <;> rfl
      · rcases hsign with rfl | rfl <;> rfl

theorem IsMagnitude.isNumberChar (h : IsMagnitude s) : ∀ c ∈ s, isNumberChar c = true := by
  obtain ⟨whole, fraction, exponent, hw, hf, he, rfl⟩ := h
  refine List.forall_mem_append.2 ⟨?_, List.forall_mem_append.2 ⟨?_, he.isNumberChar⟩⟩
  · cases hw with
    | zero => simp [Json.isNumberChar]
    | leading _ digits => exact digits.isNumberChar
  · cases hf with
    | none => simp
    | point digits => exact List.forall_mem_cons.2 ⟨rfl, digits.isNumberChar⟩

theorem IsNumber.isNumberChar (h : IsNumber s) : ∀ c ∈ s, isNumberChar c = true := by
  cases h with
  | positive h => exact h.isNumberChar
  | negative h => exact List.forall_mem_cons.2 ⟨rfl, h.isNumberChar⟩

/-! ### Documents name no double -/

structure Nameless (s : List Char) : Prop where
  closed : Closed s
  not_names : ¬ Names s

theorem Nameless.append (hs : Nameless s) (ht : Nameless t) : Nameless (s ++ t) :=
  ⟨hs.closed.append ht.closed, fun h =>
    ((names_append hs.closed).1 h).elim hs.not_names ht.not_names⟩

def isUnnamed (c : Char) : Bool := c != '"' && c != 'N' && c != 'I'

theorem isUnnamed_of {p : Char → Bool} (hp : p '"' = false ∧ p 'N' = false ∧ p 'I' = false)
    (h : p c = true) : isUnnamed c = true := by
  have hne {c' : Char} (hc' : p c' = false) : c ≠ c' := by
    rintro rfl
    exact Bool.false_ne_true (hc'.symm.trans h)
  simp [isUnnamed, hne hp.1, hne hp.2.1, hne hp.2.2]

theorem nameless_of_all (h : s.all isUnnamed = true) : Nameless s := by
  have hnone {c : Char} (hc : isUnnamed c = false) : c ∉ s := fun hmem =>
    Bool.false_ne_true (hc.symm.trans (List.all_eq_true.1 h c hmem))
  refine ⟨closed_of_no_quote (hnone rfl), fun hnames => ?_⟩
  rcases (names_of_no_quote (hnone rfl)).1 hnames with hc | hc
  · exact hnone rfl hc
  · exact hnone rfl hc

theorem Nameless.cons (hc : isUnnamed c = true) (hs : Nameless s) : Nameless (c :: s) :=
  (nameless_of_all (s := [c]) (by rw [List.all_cons, hc]; rfl)).append hs

theorem IsString.nameless (h : IsString s) : Nameless s := ⟨h.closed, h.not_names⟩

theorem IsBlank.nameless (h : IsBlank s) : Nameless s :=
  nameless_of_all (List.all_eq_true.2 (fun c hc => isUnnamed_of ⟨rfl, rfl, rfl⟩ (h c hc)))

theorem IsNumber.nameless (h : IsNumber s) : Nameless s :=
  nameless_of_all (List.all_eq_true.2 (fun c hc =>
    isUnnamed_of ⟨rfl, rfl, rfl⟩ (h.isNumberChar c hc)))

theorem Derives.nameless {category : Category} (h : Derives category s) : Nameless s := by
  induction h with
  | null => exact nameless_of_all rfl
  | true => exact nameless_of_all rfl
  | false => exact nameless_of_all rfl
  | number h => exact h.nameless
  | string h => exact h.nameless
  | emptyArray hb => exact .cons rfl (hb.nameless.append (nameless_of_all rfl))
  | array _ ih => exact .cons rfl (ih.append (nameless_of_all rfl))
  | emptyObject hb => exact .cons rfl (hb.nameless.append (nameless_of_all rfl))
  | object _ ih => exact .cons rfl (ih.append (nameless_of_all rfl))
  | element hb _ ha ih => exact hb.nameless.append (ih.append ha.nameless)
  | lastElement _ ih => exact ih
  | nextElement _ _ ih ihr => exact ih.append (.cons rfl ihr)
  | member hb hn ha _ ih =>
      exact hb.nameless.append (hn.nameless.append (ha.nameless.append (.cons rfl ih)))
  | lastMember _ ih => exact ih
  | nextMember _ _ ih ihr => exact ih.append (.cons rfl ihr)

theorem IsDocument.not_names (h : IsDocument s) : ¬ Names s := (Derives.nameless h).not_names

end Appraisal.Json
