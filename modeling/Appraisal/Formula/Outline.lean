import Appraisal.Datum.Display
import Appraisal.Fault
import Appraisal.Formula.Tree

/-!
# Outlines of trees

A tree as nested lists: each node is the word for its sort, the name of its kind and its parts. An
outline can be written by hand, so it need not be one that the compiler would make. Something that is
no node at all can stand in the place of one.
-/

namespace Appraisal.Formula.Tree

mutual

def outline : Tree → Datum
  | literal v k => .list [.text "lit", .text k.name, v]
  | reference n k => .list [.text "var", .text k.name, .text n]
  | unary op e k => .list [.text "un", .text k.name, .text op.symbol, e.outline]
  | binary op l r k =>
      .list [.text "bin", .text k.name, .text op.symbol, l.outline, r.outline]
  | call n args k => .list [.text "call", .text k.name, .text n, .list (outlines args)]

def outlines : List Tree → List Datum
  | [] => []
  | e :: es => e.outline :: outlines es

end

def outlineKind (d : Datum) : Except Fault Kind :=
  match d.asText?.bind Kind.ofName? with
  | some k => .ok k
  | none => .error (.refusal (.stated .value (d.shown ++ " is not a valid ValueType")))

def symbolText (d : Datum) : Text := d.asText?.getD ""

mutual

/-- Reads an outline. There is no tree if any part of it is no node. -/
def ofOutline : Datum → Except Fault (Option Tree)
  | .list [.text "lit", k, v] => do
      return some (literal v (← outlineKind k))
  | .list [.text "var", k, n] => do
      return some (reference (symbolText n) (← outlineKind k))
  | .list [.text "un", k, op, e] => do
      let e ← ofOutline e
      let k ← outlineKind k
      return e.map (fun e => unary (.ofSymbol (symbolText op)) e k)
  | .list [.text "bin", k, op, l, r] => do
      let l ← ofOutline l
      let r ← ofOutline r
      let k ← outlineKind k
      return (l.bind (fun l => r.map (fun r => binary (.ofSymbol (symbolText op)) l r k)))
  | .list [.text "call", k, n, .list args] => do
      let args ← ofOutlines args
      let k ← outlineKind k
      return args.map (fun args => call (symbolText n) args k)
  | _ => .ok none

def ofOutlines : List Datum → Except Fault (Option (List Tree))
  | [] => .ok (some [])
  | d :: ds => do
      let e ← ofOutline d
      let es ← ofOutlines ds
      return (e.bind (fun e => es.map (fun es => e :: es)))

end

end Appraisal.Formula.Tree
