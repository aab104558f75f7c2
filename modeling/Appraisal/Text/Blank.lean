import Appraisal.Text.Basic

/-!
# Blank characters

White space in the sense of the Unicode property, together with the four information separators
and the next-line control. Notes are split into words at blanks and formulas are trimmed of them.
-/

namespace Appraisal

namespace Text

def blanks : List Nat :=
  [0x09, 0x0A, 0x0B, 0x0C, 0x0D, 0x1C, 0x1D, 0x1E, 0x1F, 0x20, 0x85, 0xA0, 0x1680,
    0x2000, 0x2001, 0x2002, 0x2003, 0x2004, 0x2005, 0x2006, 0x2007, 0x2008, 0x2009, 0x200A,
    0x2028, 0x2029, 0x202F, 0x205F, 0x3000]

def isBlank (c : Char) : Bool :=
  blanks.contains c.toNat

/-- Is a character blank beside a number? Of the ASCII characters the separators are not. -/
def isMargin (c : Char) : Bool :=
  isBlank c && !(0x1C ≤ c.toNat && c.toNat ≤ 0x1F)

def trimmedOf {α : Type} (p : α → Bool) (s : List α) : List α :=
  ((s.dropWhile p).reverse.dropWhile p).reverse

def trimmed (s : List Char) : List Char :=
  trimmedOf isBlank s

end Text

def Letter.isBlank (l : Letter) : Bool := l.isOf Text.isBlank

namespace Text

def word (s : List Letter) : List Letter :=
  s.takeWhile (fun c => !c.isBlank)

def trim (t : Text) : Text :=
  ofList (trimmedOf Letter.isBlank t.toList)

theorem not_isBlank_of_mem_word {s : List Letter} {c : Letter} (h : c ∈ word s) :
    c.isBlank = false := by
  induction s with
  | nil => simp [word] at h
  | cons d s ih =>
      by_cases hd : d.isBlank = true
      · simp [word, hd] at h
      · simp only [Bool.not_eq_true] at hd
        simp only [word, List.takeWhile_cons, hd, Bool.not_false, if_true, List.mem_cons] at h
        rcases h with rfl | h
        · exact hd
        · exact ih h

end Text

end Appraisal
