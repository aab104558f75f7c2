import Mathlib.Data.List.Forall2
import Appraisal.Formula.Evaluation

/-!
# Failures and complaints

An evaluation can fail because an operation has no result, or complain that a value is not of the
kind that is asked for. The two are told apart by the words that their messages start with. The main
statement: no failure is a complaint.
-/

namespace Appraisal

/-- The values of a kind. Numbers are doubles, strings are texts and dates are without a time. -/
inductive Datum.IsValue : Kind → Datum → Prop
  | number (x : Float) : IsValue .number (.double x)
  | string (t : Text) : IsValue .string (.text t)
  | boolean (b : Bool) : IsValue .boolean (.truth b)
  | date (d : Date) : IsValue .date (.date d)

theorem Datum.IsValue.kind?_eq {k : Kind} {d : Datum} (h : d.IsValue k) : d.kind? = some k := by
  cases h <;> rfl

theorem Datum.IsValue.isOf {k : Kind} {d : Datum} (h : d.IsValue k) : d.isOf k = true := by
  cases h <;> rfl

namespace Text

def Opens (t : Text) (word rest : List Letter) : Prop :=
  t.toList = word ++ Letter.char ' ' :: rest ∧ Letter.char ' ' ∉ word

instance (t : Text) (word rest : List Letter) : Decidable (t.Opens word rest) :=
  inferInstanceAs (Decidable (_ ∧ _))

theorem append_cons_inj {w w' r r' : List Letter} {l : Letter} (hw : l ∉ w) (hw' : l ∉ w')
    (h : w ++ l :: r = w' ++ l :: r') : w = w' ∧ r = r' := by
  induction w generalizing w' with
  | nil =>
      cases w' with
      | nil => exact ⟨rfl, (List.cons.inj h).2⟩
      | cons a w' => exact absurd (List.mem_cons.2 (.inl (List.cons.inj h).1)) hw'
  | cons a w ih =>
      cases w' with
      | nil => exact absurd (List.mem_cons.2 (.inl (List.cons.inj h).1.symm)) hw
      | cons a' w' =>
          obtain ⟨rfl, htail⟩ := List.cons.inj h
          obtain ⟨rfl, rfl⟩ := ih (List.not_mem_of_not_mem_cons hw)
            (List.not_mem_of_not_mem_cons hw') htail
          exact ⟨rfl, rfl⟩

theorem eq_of_startsWith {t o : Text} {w r w' r' : List Letter} (ht : t.Opens w r)
    (ho : o.Opens w' r') (h : t.startsWith o = true) : w' = w ∧ r' <+: r := by
  obtain ⟨s, hs⟩ := List.isPrefixOf_iff_prefix.1 h
  rw [ht.1, ho.1, List.append_assoc, List.cons_append] at hs
  obtain ⟨hw, hr⟩ := append_cons_inj ho.2 ht.2 hs
  exact ⟨hw, s, hr⟩

end Text

namespace Formula

/-- The words that complaints about the kinds of values start with: of operands, of what is ordered,
of names, of nodes and operators, and of the arguments and the results of functions. -/
def complaintOpenings (registry : Registry) : List Text :=
  ["expected ", "cannot order ", "undefined variable ", "undefined function ", "unsupported node ",
    "unsupported operator "].map Text.ofString ++
    registry.functions.flatMap (fun f => ["() takes ", "() argument ", "() returned "].map
      (fun ending : String => (f.name : Text) ++ (ending : Text)))

def IsComplaint (registry : Registry) (detail : Text) : Prop :=
  ∃ o ∈ complaintOpenings registry, detail.startsWith o = true

/-- The messages of operations that have no result for values of the right kinds: a divisor is zero,
a function refuses its arguments, or a number is not finite. -/
inductive IsFailure (registry : Registry) : Text → Prop
  | division : IsFailure registry "division by zero"
  | modulo : IsFailure registry "modulo by zero"
  | operator (op : Arithmetic) :
      IsFailure registry ("'" ++ op.symbol ++ "' produced a non-finite result")
  | refused (f : Function) (hf : f ∈ registry.functions) (values : List Datum)
      (hv : List.Forall₂ Datum.IsValue f.params values) (r : Refusal)
      (hr : f.impl.run values = .error (.refusal r)) (hcaught : r.family ≠ .system) :
      IsFailure registry (f.name ++ "(): " ++ r.message)
  | result (f : Function) (hf : f ∈ registry.functions) :
      IsFailure registry (f.name ++ "() produced a non-finite result")

/-! ### First words -/

def Function.letters (f : Function) : List Letter := f.name.toList.map .char

theorem not_mem_letters (f : Function) {c : Char} (hs : Text.isNameStart c = false)
    (hc : Text.isNameChar c = false) : Letter.char c ∉ f.letters := by
  have hn := f.isName_name
  intro h
  obtain ⟨d, hd, hcd⟩ := List.mem_map.1 h
  obtain rfl : d = c := Letter.char.inj hcd
  cases hl : f.name.toList with
  | nil => simp [hl] at hd
  | cons a as =>
      rw [hl] at hn hd
      simp only [Text.isName, Bool.and_eq_true, List.all_eq_true] at hn
      rcases List.mem_cons.1 hd with rfl | hd
      · rw [hn.1] at hs
        exact absurd hs (by simp)
      · rw [hn.2 d hd] at hc
        exact absurd hc (by simp)

theorem blank_not_mem_letters (f : Function) : Letter.char ' ' ∉ f.letters :=
  not_mem_letters f (by decide +kernel) (by decide +kernel)

theorem colon_not_mem_letters (f : Function) : Letter.char ':' ∉ f.letters :=
  not_mem_letters f (by decide +kernel) (by decide +kernel)

/-- A message that starts with the name of a function and brackets. -/
theorem opens_of_name (f : Function) {ending : String} {brackets rest : List Letter}
    (h : (ending : Text).Opens brackets rest) :
    ((f.name : Text) ++ (ending : Text)).Opens (f.letters ++ brackets) rest := by
  refine ⟨?_, ?_⟩
  · rw [Text.toList_append, h.1, List.append_assoc]
    rfl
  · rw [List.mem_append]
    exact not_or.2 ⟨blank_not_mem_letters f, h.2⟩

/-- What is said of arguments that a function refuses opens with its name, whatever the reason is. -/
theorem opens_of_refused (f : Function) (reason : Text) :
    ((f.name : Text) ++ (("(): " : String) : Text) ++ reason).Opens
      (f.letters ++ "():".toList.map .char) reason.toList := by
  have hcall := @opens_of_name f "(): " ("():".toList.map .char) [] (by decide +kernel)
  refine ⟨?_, hcall.2⟩
  rw [Text.toList_append, hcall.1, List.append_assoc]
  rfl

/-! ### No failure is a complaint -/

def complaintWords : List (List Letter) :=
  ["expected", "cannot", "undefined", "unsupported"].map (fun s => s.toList.map Letter.char)

theorem opens_of_isFailure {registry : Registry} {t : Text} (h : IsFailure registry t) :
    (∃ w rest, t.Opens w rest ∧ Letter.char '(' ∉ w ∧ w ∉ complaintWords) ∨
    (∃ (f : Function) (rest : List Letter), t.Opens (f.letters ++ "():".toList.map .char) rest) ∨
    (∃ (f : Function) (rest : List Letter),
      t.Opens (f.letters ++ "()".toList.map .char) (.char 'p' :: rest)) := by
  cases h with
  | division =>
      refine .inl ⟨"division".toList.map .char, "by zero".toList.map .char, ?_⟩
      decide +kernel
  | modulo =>
      refine .inl ⟨"modulo".toList.map .char, "by zero".toList.map .char, ?_⟩
      decide +kernel
  | operator op =>
      refine .inl ⟨("'" ++ op.symbol ++ "'").toList.map .char,
        "produced a non-finite result".toList.map .char, ?_⟩
      cases op <;> decide +kernel
  | refused f hf values hv r hr _ => exact .inr (.inl ⟨f, _, opens_of_refused f r.message⟩)
  | result f hf =>
      exact .inr (.inr ⟨f, "roduced a non-finite result".toList.map .char,
        opens_of_name f (by decide +kernel)⟩)

theorem opens_of_mem_complaintOpenings {registry : Registry} {o : Text}
    (h : o ∈ complaintOpenings registry) :
    (∃ w rest, o.Opens w rest ∧ w ∈ complaintWords) ∨
    (∃ (f : Function) (c : Char) (rest : List Letter),
      o.Opens (f.letters ++ "()".toList.map .char) (.char c :: rest) ∧ c ≠ 'p') := by
  rcases List.mem_append.1 h with h | h
  · refine .inl ?_
    have hplain : ∀ o ∈ ["expected ", "cannot order ", "undefined variable ", "undefined function ",
        "unsupported node ", "unsupported operator "].map Text.ofString,
        ∃ w ∈ complaintWords, o.Opens w ((o.toList.drop (w.length + 1))) := by
      decide +kernel
    obtain ⟨w, hw, ho⟩ := hplain o h
    exact ⟨w, _, ho, hw⟩
  · obtain ⟨f, -, ho⟩ := List.mem_flatMap.1 h
    refine .inr ⟨f, ?_⟩
    simp only [List.map_cons, List.map_nil, List.mem_cons, List.not_mem_nil, or_false] at ho
    rcases ho with rfl | rfl | rfl
    · exact ⟨'t', "akes ".toList.map .char, opens_of_name f (by decide +kernel), by decide⟩
    · exact ⟨'a', "rgument ".toList.map .char, opens_of_name f (by decide +kernel), by decide⟩
    · exact ⟨'r', "eturned ".toList.map .char, opens_of_name f (by decide +kernel), by decide⟩

/-- A failure does not complain about the kind of a value. -/
theorem not_isComplaint {registry : Registry} {t : Text} (h : IsFailure registry t) :
    ¬ IsComplaint registry t := by
  rintro ⟨o, ho, hstart⟩
  have hwords : ∀ w ∈ complaintWords, Letter.char '(' ∉ w := by decide +kernel
  have hopen (f : Function) (brackets : List Letter) :
      Letter.char '(' ∈ f.letters ++ .char '(' :: brackets := by simp
  rcases opens_of_mem_complaintOpenings ho with
    ⟨w', rest', ho, hw'⟩ | ⟨g, c, rest', ho, hc⟩
  · rcases opens_of_isFailure h with ⟨w, rest, ht, hw, hn⟩ | ⟨f, rest, ht⟩ | ⟨f, rest, ht⟩
    · exact hn ((Text.eq_of_startsWith ht ho hstart).1 ▸ hw')
    · have heq := (Text.eq_of_startsWith ht ho hstart).1
      exact hwords w' hw' (heq ▸ hopen f _)
    · have heq := (Text.eq_of_startsWith ht ho hstart).1
      exact hwords w' hw' (heq ▸ hopen f _)
  · rcases opens_of_isFailure h with ⟨w, rest, ht, hw, hn⟩ | ⟨f, rest, ht⟩ | ⟨f, rest, ht⟩
    · exact hw ((Text.eq_of_startsWith ht ho hstart).1 ▸ hopen g _)
    · have heq := (Text.eq_of_startsWith ht ho hstart).1
      have hcolon : Letter.char ':' ∈ g.letters ++ "()".toList.map Letter.char := by
        rw [heq]
        simp
      simp [colon_not_mem_letters] at hcolon
    · obtain ⟨-, s, hs⟩ := Text.eq_of_startsWith ht ho hstart
      exact hc (Letter.char.inj (List.cons.inj hs).1)

end Formula

end Appraisal
