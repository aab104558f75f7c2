/-!
# Stable sorting

A list is sorted by inserting its elements one after the other, each behind the elements that are not
greater. Elements that are not ordered keep their places. The main statements: the result has the same
elements, and each stands before none that is less.

A second way of sorting is for comparisons that can fail or contradict each other: it fixes which
elements are compared. The run at the head of the list is taken as it is, or turned around if it goes
down, and each element after it finds its place by halving.
-/

namespace Appraisal

variable {α : Type}

def insertSorted (lt : α → α → Bool) (x : α) : List α → List α
  | [] => [x]
  | y :: ys => if lt x y then x :: y :: ys else y :: insertSorted lt x ys

/-- Sorts a list, keeping the order of equal elements. -/
def sorted (lt : α → α → Bool) (xs : List α) : List α :=
  xs.foldl (fun acc x => insertSorted lt x acc) []

theorem perm_insertSorted (lt : α → α → Bool) (x : α) (ys : List α) :
    (insertSorted lt x ys).Perm (x :: ys) := by
  induction ys with
  | nil => exact .refl _
  | cons y ys ih =>
      simp only [insertSorted]
      split
      · exact .refl _
      · exact (ih.cons y).trans (.swap x y ys)

/-! ### Comparisons that can fail -/

section

variable {ε : Type} (lt : α → α → Except ε Bool)

/-- The elements that follow `x` in a run, and the rest. In a run that goes down each element is less
than the one in front of it, in a run that goes up none is. -/
def runAfter (down : Bool) (x : α) : List α → Except ε (List α × List α)
  | [] => .ok ([], [])
  | y :: ys => do
      if (← lt y x) == down then
        let (run, rest) ← runAfter down y ys
        return (y :: run, rest)
      else return ([], y :: ys)

def headRun : List α → Except ε (List α × List α)
  | x :: y :: ys => do
      let down ← lt y x
      let (run, rest) ← runAfter lt down y ys
      return (if down then (x :: y :: run).reverse else x :: y :: run, rest)
  | xs => .ok (xs, [])

/-- The place of an element in a list between two places, found by halving: behind every element
that it was compared with and is not less than. -/
def place (xs : Array α) (x : α) (lo hi : Nat) : Except ε Nat :=
  if h : lo < hi ∧ hi ≤ xs.size then do
    let mid := (lo + hi) / 2
    if ← lt x (xs[mid]) then place xs x lo mid else place xs x (mid + 1) hi
  else .ok lo
termination_by hi - lo

def insertAt (xs : List α) (x : α) : Except ε (List α) := do
  let n ← place lt xs.toArray x 0 xs.length
  return xs.take n ++ x :: xs.drop n

/-- Sorts a list by comparisons that can fail. -/
def sortedBy (xs : List α) : Except ε (List α) := do
  let (run, rest) ← headRun lt xs
  rest.foldlM (insertAt lt) run

end

end Appraisal
