import Appraisal.Text.Basic
import Appraisal.Text.Wildcard

/-!
# Expressions for wildcards

Letters and runs can be written as an expression: a letter stands for itself, a point and a star stand
for a run, and a letter with a meaning of its own is escaped by a backslash. Whatever letters are
written, the expression for them is read as these letters.
-/

namespace Appraisal.Text

/-! ### Parts -/

theorem partsAt_eq_splitOn (separator : Letter) (s : List Letter) :
    partsAt separator s = List.splitOn separator s := by
  induction s with
  | nil => rfl
  | cons l s ih =>
      rw [List.splitOn, List.splitOnP_cons_eq_if_modifyHead, ← List.splitOn, ← ih, partsAt]
      by_cases h : l = separator
      · rw [if_pos h, if_pos (beq_iff_eq.2 h)]
      · rw [if_neg h, if_neg (by simpa using h)]
        have hlength := length_partsAt separator s
        cases hparts : partsAt separator s with
        | nil => simp [hparts] at hlength
        | cons p ps => rfl

theorem intercalate_partsAt (separator : Letter) (s : List Letter) :
    [separator].intercalate (partsAt separator s) = s := by
  rw [partsAt_eq_splitOn]
  exact List.intercalate_splitOn separator

theorem not_mem_of_mem_partsAt {separator : Letter} {s p : List Letter}
    (h : p ∈ partsAt separator s) : separator ∉ p := by
  induction s generalizing p with
  | nil =>
      obtain rfl := List.mem_singleton.1 h
      exact List.not_mem_nil
  | cons l s ih =>
      rw [partsAt] at h
      by_cases hl : l = separator
      · rw [if_pos hl, List.mem_cons] at h
        rcases h with rfl | h
        · exact List.not_mem_nil
        · exact ih h
      · rw [if_neg hl] at h
        cases hparts : partsAt separator s with
        | nil =>
            rw [hparts] at h
            obtain rfl := List.mem_singleton.1 h
            simpa using Ne.symm hl
        | cons q ps =>
            rw [hparts] at h ih
            rcases List.mem_cons.1 h with rfl | h
            · simpa [Ne.symm hl] using ih List.mem_cons_self
            · exact ih (List.mem_cons_of_mem q h)

theorem map_intercalate {α β : Type} (f : α → β) (separator : List α) (pieces : List (List α)) :
    (separator.intercalate pieces).map f =
      (separator.map f).intercalate (pieces.map (List.map f)) := by
  induction pieces with
  | nil => rfl
  | cons piece rest ih =>
      cases rest with
      | nil => simp
      | cons next rest =>
          simp only [List.map_cons, List.intercalate_cons_cons, List.map_append] at ih ⊢
          rw [ih]

/-! ### Escaped letters -/

namespace Expression

/-- Characters that mean something in an expression. -/
def operators : List Char := "()[]\x7b\x7d?*+|^$\\.".toList

/-- Characters that mean something in a class of characters, or where an expression is spaced out. -/
def others : List Char := "-&~# \t\n\r\x0b\x0c".toList

def isOperator (l : Letter) : Bool := l.isOf operators.contains

def isEscaped (l : Letter) : Bool := l.isOf (operators ++ others).contains

/-- Behind a backslash a letter or a digit means something else. -/
def isWord (l : Letter) : Bool := l.isOf Char.isAlphanum

def backslash : Letter := '\\'

def point : Letter := '.'

def star : Letter := '*'

def escaped (s : List Letter) : List Letter :=
  s.flatMap (fun l => if isEscaped l then [backslash, l] else [l])

/-- What a letter by itself stands for: a point for every letter, the end of a line among them. -/
def plain? (l : Letter) : Option (Wildcard Letter) :=
  if l = point then some .anyOne else if isOperator l then none else some (.exactly l)

/-- The pattern that an expression writes, if it writes only letters and wildcards. -/
def read? : List Letter → Option (List (Wildcard Letter))
  | [] => some []
  | [l] => (plain? l).map (fun w => [w])
  | l :: c :: s =>
      if l = backslash then if isWord c then none else (read? s).map (.exactly c :: ·)
      else if l = point ∧ c = star then (read? s).map (.anyRun :: ·)
      else (plain? l).bind (fun w => (read? (c :: s)).map (w :: ·))

theorem not_isWord_of_isEscaped {l : Letter} (h : isEscaped l = true) : isWord l = false := by
  cases l with
  | surrogate i => rfl
  | char c =>
      have hnone : (operators ++ others).any Char.isAlphanum = false := by decide
      exact Bool.eq_false_iff.2 (List.any_eq_false.1 hnone c (List.contains_iff_mem.1 h))

theorem isEscaped_of_isOperator {l : Letter} (h : isOperator l = true) : isEscaped l = true := by
  cases l with
  | surrogate i => cases h
  | char c =>
      apply List.contains_iff_mem.2
      exact List.mem_append_left others (List.contains_iff_mem.1 h)

theorem ne_of_not_isEscaped {l m : Letter} (hl : ¬ isEscaped l = true) (hm : isEscaped m = true) :
    l ≠ m := by
  rintro rfl
  exact hl hm

/-- A letter without a meaning of its own is read as it is. -/
theorem read?_cons {l : Letter} (hl : ¬ isEscaped l = true) (s : List Letter) :
    read? (l :: s) = (read? s).map (.exactly l :: ·) := by
  have hslash : l ≠ backslash := ne_of_not_isEscaped hl (by decide)
  have hpoint : l ≠ point := ne_of_not_isEscaped hl (by decide)
  have hplain : plain? l = some (.exactly l) := by
    rw [plain?, if_neg hpoint, if_neg (fun h => hl (isEscaped_of_isOperator h))]
  cases s with
  | nil => simp only [read?, hplain, Option.map_some]
  | cons c s => rw [read?, if_neg hslash, if_neg (fun h => hpoint h.1), hplain, Option.bind_some]

/-- Behind a backslash a letter that needs it is read as it is. -/
theorem read?_backslash_cons {l : Letter} (hl : isEscaped l = true) (s : List Letter) :
    read? (backslash :: l :: s) = (read? s).map (.exactly l :: ·) := by
  rw [read?, if_pos rfl, not_isWord_of_isEscaped hl]
  rfl

theorem read?_run (s : List Letter) :
    read? ([point, star] ++ s) = (read? s).map (.anyRun :: ·) := by
  have hslash : point ≠ backslash := by decide
  rw [List.cons_append, List.cons_append, List.nil_append, read?, if_neg hslash,
    if_pos ⟨rfl, rfl⟩]

/-- Escaped letters are read as these letters, whatever follows. -/
theorem read?_escaped_append (s t : List Letter) :
    read? (escaped s ++ t) = (read? t).map (s.map .exactly ++ ·) := by
  induction s with
  | nil => exact Option.map_id'.symm
  | cons l s ih =>
      have hread : read? (escaped (l :: s) ++ t) =
          (read? (escaped s ++ t)).map (.exactly l :: ·) := by
        rw [escaped, List.flatMap_cons, ← escaped, List.append_assoc]
        by_cases hl : isEscaped l = true
        · rw [if_pos hl]
          exact read?_backslash_cons hl _
        · rw [if_neg hl]
          exact read?_cons hl _
      rw [hread, ih, Option.map_map]
      rfl

/-- Pieces with a run between each two are read as they are written. -/
theorem read?_intercalate (pieces : List (List Letter)) :
    read? ([point, star].intercalate (pieces.map escaped)) =
      some ([.anyRun].intercalate (pieces.map (List.map .exactly))) := by
  induction pieces with
  | nil => rfl
  | cons piece rest ih =>
      cases rest with
      | nil =>
          have hread := read?_escaped_append piece []
          simp only [List.append_nil, read?, Option.map_some] at hread
          simpa using hread
      | cons next rest =>
          simp only [List.map_cons, List.intercalate_cons_cons] at ih ⊢
          rw [List.append_assoc, read?_escaped_append, read?_run, ih]
          simp

/-- What is escaped stands for itself, and an operator that is not escaped is not read. -/
example :
    read? ("a\\..*" : Text).toList = some [.exactly 'a', .exactly '.', .anyRun] ∧
      read? ("a+" : Text).toList = none := by
  decide

end Expression

end Appraisal.Text
