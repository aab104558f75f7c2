import Appraisal.Formula.Evaluation
import Appraisal.Proofs.Formula.Induction
import Appraisal.Proofs.Outcome

/-!
# Variables of a tree

The names of the variables that stand in a tree. An evaluation asks its environment for these and for
no others, so it ends alike, and after as many steps, in every environment that agrees on them.
-/

namespace Appraisal.Formula

namespace Tree

mutual

def variableNames : Tree → List Text
  | literal .. => []
  | reference name _ => [name]
  | unary _ e _ => e.variableNames
  | binary _ l r _ => l.variableNames ++ r.variableNames
  | call _ args _ => allVariableNames args

def allVariableNames : List Tree → List Text
  | [] => []
  | e :: es => e.variableNames ++ allVariableNames es

end

theorem mem_allVariableNames {ts : List Tree} {t : Tree} {x : Text} (ht : t ∈ ts)
    (hx : x ∈ t.variableNames) : x ∈ allVariableNames ts := by
  induction ts with
  | nil => cases ht
  | cons u us ih =>
      rw [allVariableNames, List.mem_append]
      rcases List.mem_cons.1 ht with rfl | ht
      · exact .inl hx
      · exact .inr (ih ht)

end Tree

namespace Evaluation

variable {v : Evaluation} {e : Environment}

theorem lookup_congr {name : Text} (h : e name = v.environment name) :
    lookup { v with environment := e } name = v.lookup name := by
  simp only [lookup, h]
  rfl

theorem evalAll_congr {w : Evaluation} {ts : List Tree} (h : ∀ t ∈ ts, w.eval t = v.eval t) :
    w.evalAll ts = v.evalAll ts := by
  induction ts with
  | nil => rfl
  | cons t ts ih =>
      rw [List.forall_mem_cons] at h
      simp only [evalAll, h.1, ih h.2]

theorem eval_congr {t : Tree} (h : ∀ x ∈ t.variableNames, e x = v.environment x) :
    eval { v with environment := e } t = v.eval t := by
  induction t with
  | literal d k => rfl
  | reference name k =>
      have hname : e name = v.environment name := h name (by simp [Tree.variableNames])
      simp only [eval, lookup_congr hname]
      rfl
  | unary op operand k ih =>
      simp only [Tree.variableNames] at h
      simp only [eval, ih h]
      rfl
  | binary op l r k ihl ihr =>
      simp only [Tree.variableNames, List.forall_mem_append] at h
      simp only [eval, ihl h.1, ihr h.2]
      rfl
  | call name args k ih =>
      have hargs : evalAll { v with environment := e } args = v.evalAll args := by
        apply evalAll_congr
        intro t ht
        apply ih t ht
        intro x hx
        exact h x (Tree.mem_allVariableNames ht hx)
      simp only [eval, hargs]
      rfl

end Evaluation

namespace Program

variable {p : Program} {e e' : Environment}

theorem runNumeric_congr (h : ∀ x ∈ p.root.variableNames, e x = e' x) (limit : Int) :
    p.runNumeric e limit = p.runNumeric e' limit := by
  have heval := @Evaluation.eval_congr ⟨p.source, p.registry, e', limit⟩ e p.root h
  unfold runNumeric run
  rw [← heval]

/-- A program depends only on the variables in its tree. In two environments that agree on them it
ends with the same value or the same fault within every limit of steps, and after as many steps,
wherever they start to count. -/
theorem run_depends_on_variableNames (p : Program) (e e' : Environment)
    (h : ∀ x ∈ p.root.variableNames, e x = e' x) (limit : Int) :
    p.run e limit = p.run e' limit ∧ p.runNumeric e limit = p.runNumeric e' limit ∧
      ∀ n, Evaluation.eval ⟨p.source, p.registry, e, limit⟩ p.root n =
        Evaluation.eval ⟨p.source, p.registry, e', limit⟩ p.root n := by
  have heval := @Evaluation.eval_congr ⟨p.source, p.registry, e', limit⟩ e p.root h
  refine ⟨?_, runNumeric_congr h limit, ?_⟩
  · unfold run
    rw [← heval]
  · intro n
    exact congrFun heval n

/-- The note of a live posting decides whether its price is shown. The date, the account, the
commodity and the time since then are not named. -/
theorem run_of_same_note :
    ∃ p, compile "if_else(note_contains(note, 'live'), amount / quantity, 0)" = .ok p ∧
      ∀ limit, p.run (Context.make 100 2 .newYear2024 30 "live" "Assets:Cash" "INR").lookup? limit =
        p.run (Context.make 100 2 { day := 1 } 7 "live" "Assets:Bank" "USD").lookup? limit := by
  have hnote (c : Context) : c.lookup? "note" = some (.text c.note) := rfl
  have hamount (c : Context) : c.lookup? "amount" = some (.double c.amount) := rfl
  have hquantity (c : Context) : c.lookup? "quantity" = some (.double c.quantity) := rfl
  have hnames : (compile "if_else(note_contains(note, 'live'), amount / quantity, 0)").toOption.map
      (fun p => p.root.variableNames) = some [("note" : Text), "amount", "quantity"] := by
    decide +kernel
  cases hp : compile "if_else(note_contains(note, 'live'), amount / quantity, 0)" with
  | error e =>
      rw [hp] at hnames
      cases hnames
  | ok p =>
      rw [hp] at hnames
      have hroot : p.root.variableNames = [("note" : Text), "amount", "quantity"] :=
        Option.some.inj hnames
      refine ⟨p, rfl, fun limit => ?_⟩
      refine (run_depends_on_variableNames p _ _ ?_ limit).1
      rw [hroot]
      intro x hx
      simp only [List.mem_cons, List.not_mem_nil, or_false] at hx
      rcases hx with rfl | rfl | rfl
      · rw [hnote, hnote]
        rfl
      · rw [hamount, hamount]
        rfl
      · rw [hquantity, hquantity]
        rfl

end Program

end Appraisal.Formula
