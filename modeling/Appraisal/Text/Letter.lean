/-!
# Letters

A letter of a text is a character or a surrogate. UTF-16 writes a character beyond the first plane as
two surrogates, and a text that was read escape by escape can hold one that stands alone. It has a
code point, but it is no character and has no bytes. The main statements: a letter is known by its
code point, and every code point is that of a letter.

A set of characters is given by the boundaries of its runs: the first code point of the first run, the
first code point after it, the first of the second run, and so on. A character is in the set when an
odd number of boundaries is not above it.
-/

namespace Appraisal

inductive Letter
  | char (c : Char)
  /-- A surrogate, counted from the first one. -/
  | surrogate (i : Fin 2048)
  deriving DecidableEq, Repr, Inhabited

namespace Letter

instance : Coe Char Letter := ⟨char⟩

def firstSurrogate : Nat := 0xD800

def behindSurrogates : Nat := 0xE000

def code : Letter → Nat
  | char c => c.toNat
  | surrogate i => firstSurrogate + i

def ofCode (n : Nat) : Letter :=
  if h : firstSurrogate ≤ n ∧ n < behindSurrogates then
    surrogate ⟨n - firstSurrogate, by simp only [firstSurrogate, behindSurrogates] at *; omega⟩
  else char (Char.ofNat n)

def isSurrogate : Letter → Bool
  | char _ => false
  | surrogate _ => true

def char? : Letter → Option Char
  | char c => some c
  | surrogate _ => none

def isOf (p : Char → Bool) : Letter → Bool
  | char c => p c
  | surrogate _ => false

def mapChar (f : Char → Char) : Letter → Letter
  | char c => char (f c)
  | surrogate i => surrogate i

theorem toNat_ofNat {n : Nat} (h : n.isValidChar) : (Char.ofNat n).toNat = n := by
  rw [Char.ofNat, dif_pos h]
  rfl

/-- Characters have the code points below and above the surrogates. -/
theorem toNat_lt_or_le (c : Char) : c.toNat < firstSurrogate ∨ behindSurrogates ≤ c.toNat := by
  have h : c.toNat < 0xD800 ∨ 0xDFFF < c.toNat ∧ c.toNat < 0x110000 := c.valid
  simp only [firstSurrogate, behindSurrogates]
  omega

theorem ofCode_code (l : Letter) : ofCode l.code = l := by
  cases l with
  | char c =>
      have h := toNat_lt_or_le c
      have : ¬ (firstSurrogate ≤ c.toNat ∧ c.toNat < behindSurrogates) := by omega
      simp [ofCode, code, this, Char.ofNat_toNat]
  | surrogate i =>
      have bound := i.isLt
      have : firstSurrogate ≤ firstSurrogate + (i : Nat) ∧
          firstSurrogate + (i : Nat) < behindSurrogates := by
        simp only [firstSurrogate, behindSurrogates]
        omega
      rw [code, ofCode, dif_pos this]
      simp

/-- Two letters with one code point are one letter. -/
theorem code_inj {a b : Letter} : a.code = b.code ↔ a = b :=
  ⟨fun h => by rw [← ofCode_code a, h, ofCode_code], fun h => by rw [h]⟩

end Letter

/-! ### Sets of characters -/

namespace Text

/-- How many of the sorted boundaries from `lo` to `hi` are at most `c`, added to `lo`. -/
def boundariesUpTo (bounds : Array Nat) (c lo hi : Nat) : Nat :=
  if h : lo < hi then
    let mid := (lo + hi) / 2
    if bounds.getD mid 0 ≤ c then boundariesUpTo bounds c (mid + 1) hi
    else boundariesUpTo bounds c lo mid
  else lo
termination_by hi - lo

def inRuns (bounds : Array Nat) (c : Char) : Bool :=
  boundariesUpTo bounds c.toNat 0 bounds.size % 2 == 1

end Text

end Appraisal
