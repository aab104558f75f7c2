import Appraisal.Text.Letter

/-!
# Texts

A text is a list of letters. Texts are what comes from documents, requests and records; the words of
the library itself are strings of characters, and a string is used as a text wherever one is asked
for. A text is a string when no surrogate stands in it. The main statements: `string?_ofString` and
`ofString_of_string?`.
-/

namespace Appraisal

structure Text where
  ofList ::
  toList : List Letter
  deriving DecidableEq, Repr, Inhabited

namespace Text

def ofString (s : String) : Text := ⟨s.toList.map .char⟩

instance : Coe String Text := ⟨ofString⟩

instance : Append Text := ⟨fun s t => ⟨s.toList ++ t.toList⟩⟩

def length (t : Text) : Nat := t.toList.length

def isEmpty (t : Text) : Bool := t.toList.isEmpty

def intercalate (separator : Text) (parts : List Text) : Text :=
  ⟨separator.toList.intercalate (parts.map toList)⟩

def startsWith (t start : Text) : Bool := start.toList.isPrefixOf t.toList

def partsAt (separator : Letter) : List Letter → List (List Letter)
  | [] => [[]]
  | l :: s =>
      if l = separator then [] :: partsAt separator s
      else
        match partsAt separator s with
        | [] => [[l]]
        | p :: ps => (l :: p) :: ps

/-- The parts of a text between the separators in it; there is one more than there are separators. -/
def parts (t : Text) (separator : Letter) : List Text := (partsAt separator t.toList).map ofList

def codes (t : Text) : List Nat := t.toList.map Letter.code

/-- The order of texts is that of their code points, the first difference deciding. -/
def before (s t : Text) : Bool := decide (s.codes < t.codes)

def chars? (s : List Letter) : Option (List Char) := s.mapM Letter.char?

def string? (t : Text) : Option String := (chars? t.toList).map String.ofList

def surrogateRun? (t : Text) : Option (Nat × Nat) :=
  let start := (t.toList.takeWhile (!·.isSurrogate)).length
  let run := ((t.toList.drop start).takeWhile Letter.isSurrogate).length
  if run = 0 then none else some (start, run)

@[simp] theorem toList_append (s t : Text) : (s ++ t).toList = s.toList ++ t.toList := rfl

theorem ext {s t : Text} (h : s.toList = t.toList) : s = t := by
  cases s
  cases t
  exact congrArg ofList h

theorem length_partsAt (separator : Letter) (s : List Letter) :
    (partsAt separator s).length = s.count separator + 1 := by
  induction s with
  | nil => rfl
  | cons l s ih =>
      by_cases h : l = separator
      · simp [partsAt, h, ih]
      · simp only [partsAt, h, if_false, List.count_cons_of_ne h]
        cases hp : partsAt separator s with
        | nil => simp [hp] at ih
        | cons p ps => simpa [hp] using ih

theorem codes_inj {s t : Text} : s.codes = t.codes ↔ s = t := by
  refine ⟨fun h => ext ?_, fun h => by rw [h]⟩
  exact List.map_inj_right (fun _ _ => Letter.code_inj.1) |>.1 h

theorem before_irrefl (s : Text) : s.before s = false :=
  decide_eq_false (List.lt_irrefl _)

theorem before_trans {s t u : Text} (hst : s.before t = true) (htu : t.before u = true) :
    s.before u = true :=
  decide_eq_true (List.lt_trans (of_decide_eq_true hst) (of_decide_eq_true htu))

theorem not_before_of_before {s t : Text} (h : s.before t = true) : t.before s = false :=
  decide_eq_false (List.lt_asymm (of_decide_eq_true h))

theorem before_of_not_before {s t : Text} (h : t.before s = false) (hne : s ≠ t) :
    s.before t = true := by
  refine decide_eq_true (Classical.byContradiction (fun hst => hne (codes_inj.1 ?_)))
  exact List.le_antisymm (of_decide_eq_false h) hst

theorem ne_of_before {s t : Text} (h : s.before t = true) : s ≠ t := by
  rintro rfl
  rw [before_irrefl] at h
  cases h

theorem chars?_map_char (s : List Char) : chars? (s.map .char) = some s := by
  induction s with
  | nil => rfl
  | cons c s ih =>
      simp only [chars?, List.map_cons, List.mapM_cons] at ih ⊢
      rw [ih]
      rfl

theorem string?_ofString (s : String) : (ofString s).string? = some s := by
  simp [string?, ofString, chars?_map_char, String.ofList_toList]

theorem map_char_of_chars? {s : List Letter} {cs : List Char} (h : chars? s = some cs) :
    cs.map .char = s := by
  induction s generalizing cs with
  | nil =>
      obtain rfl : [] = cs := Option.some.inj h
      rfl
  | cons l s ih =>
      cases l with
      | surrogate i => simp [chars?, Letter.char?] at h
      | char c =>
          simp only [chars?, List.mapM_cons, Letter.char?] at h ih
          cases hs : List.mapM Letter.char? s with
          | none => simp [hs] at h
          | some ds =>
              simp only [hs, Option.bind_eq_bind, Option.bind_some, Option.pure_def,
                Option.some.injEq] at h
              subst h
              simp [ih hs]

theorem ofString_of_string? {t : Text} {s : String} (h : t.string? = some s) : ofString s = t := by
  obtain ⟨cs, hcs, rfl⟩ := Option.map_eq_some_iff.1 h
  exact ext (by simpa [ofString] using map_char_of_chars? hcs)

end Text

end Appraisal
