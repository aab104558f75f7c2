import Appraisal.Formula.Surface
import Appraisal.Formula.Tree

/-!
# Induction on expressions and trees

Expressions and trees hold lists of their own kind. In an induction on them the hypothesis for such
a list is that every member has the property. A property of the names in an expression is one of the
names in its parts.
-/

namespace Appraisal.Formula

namespace Surface

@[elab_as_elim, induction_eliminator]
theorem induct {P : Surface → Prop}
    (constant : ∀ column value, P (constant column value))
    (name : ∀ column id, P (name column id))
    (unary : ∀ column op operand, P operand → P (unary column op operand))
    (binary : ∀ column op left right, P left → P right → P (binary column op left right))
    (connective : ∀ column conjunction operands, (∀ e ∈ operands, P e) →
      P (connective column conjunction operands))
    (comparison : ∀ column left links, P left → (∀ l ∈ links, P l.2) →
      P (comparison column left links))
    (call : ∀ column callee args named, P callee → (∀ e ∈ args, P e) → (∀ e ∈ named, P e) →
      P (call column callee args named))
    (other : ∀ column construct parts, (∀ e ∈ parts, P e) → P (other column construct parts))
    (e : Surface) : P e :=
  @Surface.rec P (fun es => ∀ e ∈ es, P e) (fun ls => ∀ l ∈ ls, P l.2) (fun l => P l.2)
    constant name unary binary connective comparison call other
    (fun _ h => absurd h List.not_mem_nil)
    (fun _ _ head tail => List.forall_mem_cons.2 ⟨head, tail⟩)
    (fun _ h => absurd h List.not_mem_nil)
    (fun _ _ head tail => List.forall_mem_cons.2 ⟨head, tail⟩)
    (fun _ _ h => h) e

/-- Every name stands in a relation to its column. What is called, what is named in a call and the
parts of a construct without a meaning do not count. -/
inductive Names (R : Nat → String → Prop) : Surface → Prop
  | constant (c : Nat) (v : Constant) : Names R (.constant c v)
  | name (c : Nat) (n : String) : R c n → Names R (.name c n)
  | unary (c : Nat) (op : PrefixOperator) (e : Surface) : Names R e → Names R (.unary c op e)
  | binary (c : Nat) (op : InfixOperator) (l r : Surface) :
      Names R l → Names R r → Names R (.binary c op l r)
  | connective (c : Nat) (b : Bool) (es : List Surface) :
      (∀ e ∈ es, Names R e) → Names R (.connective c b es)
  | comparison (c : Nat) (l : Surface) (links : List (Relation × Surface)) :
      Names R l → (∀ link ∈ links, Names R link.2) → Names R (.comparison c l links)
  | call (c : Nat) (f : Surface) (args named : List Surface) :
      (∀ e ∈ args, Names R e) → Names R (.call c f args named)
  | other (c : Nat) (construct : Construct) (parts : List Surface) :
      Names R (.other c construct parts)

theorem names_true (e : Surface) : e.Names (fun _ _ => True) := by
  induction e with
  | constant c v => exact .constant c v
  | name c n => exact .name c n trivial
  | unary c op e ih => exact .unary c op e ih
  | binary c op l r ihl ihr => exact .binary c op l r ihl ihr
  | connective c b es ih => exact .connective c b es ih
  | comparison c l ls ihl ihs => exact .comparison c l ls ihl ihs
  | call c f args named _ iha _ => exact .call c f args named iha
  | other c k parts _ => exact .other c k parts

end Surface

namespace Tree

@[elab_as_elim, induction_eliminator]
theorem induct {P : Tree → Prop}
    (literal : ∀ value kind, P (literal value kind))
    (reference : ∀ name kind, P (reference name kind))
    (unary : ∀ op operand kind, P operand → P (unary op operand kind))
    (binary : ∀ op left right kind, P left → P right → P (binary op left right kind))
    (call : ∀ name args kind, (∀ e ∈ args, P e) → P (call name args kind))
    (t : Tree) : P t :=
  @Tree.rec P (fun ts => ∀ t ∈ ts, P t) literal reference unary binary call
    (fun _ h => absurd h List.not_mem_nil)
    (fun _ _ head tail => List.forall_mem_cons.2 ⟨head, tail⟩) t

end Tree

end Appraisal.Formula
