import Appraisal.Formula.Function
import Appraisal.Sorting

/-!
# Registries of functions

The functions that formulas may call, in the order of their registration. No two have one name, and a
registry never changes: adding functions gives a new one.
-/

namespace Appraisal.Formula

structure Registry where
  functions : List Function
  nodup_names : (functions.map Function.name).Nodup

inductive Entry
  | function (f : Function)
  | other (d : Datum)

namespace Registry

def empty : Registry := ⟨[], List.nodup_nil⟩

def names (r : Registry) : List String := r.functions.map Function.name

def size (r : Registry) : Nat := r.functions.length

def find? (r : Registry) (name : String) : Option Function :=
  r.functions.find? (fun f => f.name = name)

def register (r : Registry) (f : Function) : Except RegistrationError Registry :=
  if h : f.name ∈ r.functions.map Function.name then .error ⟨f.name, .duplicate⟩
  else
    .ok ⟨r.functions ++ [f], by
      rw [List.map_append, List.nodup_append]
      refine ⟨r.nodup_names, by simp, fun a ha b hb => ?_⟩
      simp only [List.map_cons, List.map_nil, List.mem_singleton] at hb
      rintro rfl
      exact h (hb ▸ ha)⟩

def add (r : Registry) : Entry → Except RegistrationError Registry
  | .function f => r.register f
  | .other d => .error ⟨d.shown, .notFunction⟩

/-- The registry with more functions; the first one that cannot be added refuses all. -/
def extended (r : Registry) (entries : List Entry) : Except RegistrationError Registry :=
  entries.foldlM add r

def shown (r : Registry) : String :=
  "FunctionRegistry([" ++
    ", ".intercalate ((sorted Text.before (r.names.map .ofString)).map Text.quoted) ++ "])"

theorem name_of_find? {r : Registry} {name : String} {f : Function}
    (h : r.find? name = some f) : f.name = name := by
  simpa using List.find?_some h

theorem find?_eq_some_iff {r : Registry} {f : Function} :
    r.find? f.name = some f ↔ f ∈ r.functions := by
  refine ⟨fun h => List.mem_of_find?_eq_some h, fun h => ?_⟩
  obtain ⟨fs, hn⟩ := r
  simp only [find?] at h ⊢
  induction fs with
  | nil => simp at h
  | cons g gs ih =>
      simp only [List.map_cons, List.nodup_cons, List.mem_map, not_exists, not_and] at hn
      rcases List.mem_cons.1 h with rfl | h
      · simp
      · have hg : g.name ≠ f.name := fun e => hn.1 f h e.symm
        rw [List.find?_cons_of_neg (by simpa using hg)]
        exact ih hn.2 h

end Registry

end Appraisal.Formula
