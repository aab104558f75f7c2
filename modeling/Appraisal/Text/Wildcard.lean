/-!
# Wildcards

A pattern is a list of symbols, each of which stands for one given letter, for any one letter or for any
run of letters. A pattern matches a text as a whole. What letters are, and which of them match, is a
free choice, so that their case can be ignored.
-/

namespace Appraisal.Text

variable {α : Type}

inductive Wildcard (α : Type)
  | exactly (c : α)
  | anyOne
  | anyRun
  deriving DecidableEq, Repr

/-- Does a test hold of some end of a text, the text itself and the empty end among them? -/
def someEnd (test : List α → Bool) : List α → Bool
  | [] => test []
  | c :: s => test (c :: s) || someEnd test s

namespace Wildcard

def matchesAll (same : α → α → Bool) : List (Wildcard α) → List α → Bool
  | [], s => s.isEmpty
  | anyRun :: p, s => someEnd (matchesAll same p) s
  | anyOne :: p, s =>
      match s with
      | [] => false
      | _ :: s => matchesAll same p s
  | exactly c :: p, s =>
      match s with
      | [] => false
      | d :: s => same c d && matchesAll same p s

end Wildcard

theorem someEnd_eq_true_iff (test : List α → Bool) (s : List α) :
    someEnd test s = true ↔ ∃ a b, s = a ++ b ∧ test b = true := by
  induction s with
  | nil =>
      simp only [someEnd]
      constructor
      · intro h
        exact ⟨[], [], rfl, h⟩
      · rintro ⟨a, b, h, hb⟩
        obtain ⟨_, rfl⟩ := List.append_eq_nil_iff.1 h.symm
        exact hb
  | cons c s ih =>
      simp only [someEnd, Bool.or_eq_true, ih]
      constructor
      · rintro (h | ⟨a, b, rfl, hb⟩)
        · exact ⟨[], c :: s, rfl, h⟩
        · exact ⟨c :: a, b, rfl, hb⟩
      · rintro ⟨a, b, h, hb⟩
        cases a with
        | nil =>
            obtain rfl : c :: s = b := h
            exact .inl hb
        | cons d a =>
            obtain ⟨rfl, rfl⟩ := List.cons.inj h
            exact .inr ⟨a, b, rfl, hb⟩

end Appraisal.Text
