import Appraisal.Formula.Error
import Appraisal.Formula.Registry
import Appraisal.Formula.Surface
import Appraisal.Formula.Tree

/-!
# From written expressions to typed trees

Every node of the tree gets the kind that its parts and the registry determine. What has no meaning
in formulas, and operands of a wrong kind, are refused with the column where they stand. Operands are
looked at from left to right, each before the operator that joins them.
-/

namespace Appraisal.Formula

structure Scope where
  source : Text
  schema : Schema
  registry : Registry

namespace Scope

variable (s : Scope)

def refuse {α : Type} (column : Nat) (detail : Text) : Except FormulaError α :=
  .error (.malformed s.source detail column)

def demand (column : Nat) (operand : Tree) (wanted : Kind) (what : Text) :
    Except FormulaError Unit :=
  if operand.kind = wanted then .ok ()
  else s.refuse column
    (what ++ " expects a " ++ wanted.name ++ ", got " ++ operand.kind.name)

def truthName? : String → Option Bool
  | "true" => some true
  | "True" => some true
  | "false" => some false
  | "False" => some false
  | _ => none

def tooLarge : String := "number literal is too large"

def constant (column : Nat) : Constant → Except FormulaError Tree
  | .truth b => .ok (.literal (.truth b) .boolean)
  | .whole n =>
      match floatOfInt? n with
      | some x => .ok (.literal (.double x) .number)
      | none => s.refuse column tooLarge
  | .double x =>
      if x.isFinite then .ok (.literal (.double x) .number) else s.refuse column tooLarge
  | .text t => .ok (.literal (.text t) .string)
  | other => s.refuse column ("unsupported literal " ++ other.shown)

def name (column : Nat) (n : String) : Except FormulaError Tree :=
  match truthName? n with
  | some b => .ok (.literal (.truth b) .boolean)
  | none =>
      match s.schema.lookup (n : Text) with
      | some k => .ok (.reference n k)
      | none => s.refuse column ("unknown variable " ++ Text.quoted n)

def unary (column : Nat) (op : PrefixOperator) (operand : Tree) : Except FormulaError Tree := do
  match op with
  | .negate =>
      s.demand column operand .number "unary '-'"
      return .unary .negate operand .number
  | .plus =>
      s.demand column operand .number "unary '+'"
      return .unary .plus operand .number
  | .not =>
      s.demand column operand .boolean "'not'"
      return .unary .not operand .boolean
  | .invert => s.refuse column "unary operator Invert is not allowed"

def arithmetic? : InfixOperator → Option Arithmetic
  | .add => some .add
  | .sub => some .sub
  | .mul => some .mul
  | .div => some .div
  | .mod => some .mod
  | _ => none

def infixRefusal : InfixOperator → String
  | .power => "'**' is not supported, use pow(base, exp)"
  | op => "operator " ++ op.name ++ " is not allowed"

/-- Two texts can be added; all else is for numbers. -/
def binary (column : Nat) (op : Arithmetic) (left right : Tree) : Except FormulaError Tree :=
  if op = .add ∧ left.kind = .string ∧ right.kind = .string then
    .ok (.binary (.arithmetic .add) left right .string)
  else do
    let what := "'" ++ op.symbol ++ "'"
    s.demand column left .number what
    s.demand column right .number what
    return .binary (.arithmetic op) left right .number

def joined (op : BinaryOperator) (first : Tree) (rest : List Tree) : Tree :=
  rest.foldl (fun acc e => .binary op acc e .boolean) first

def connective (column : Nat) (conjunction : Bool) (operands : List Tree) :
    Except FormulaError Tree := do
  let op : BinaryOperator := if conjunction then .and else .or
  operands.forM (fun e => s.demand column e .boolean ("'" ++ op.symbol ++ "'"))
  match operands with
  | first :: rest => return joined op first rest
  | [] => s.refuse column "nothing to join"

def comparison? : Relation → Option Comparison
  | .eq => some .eq
  | .ne => some .ne
  | .lt => some .lt
  | .le => some .le
  | .gt => some .gt
  | .ge => some .ge
  | _ => none

/-- Two operands can be compared if they are of one kind; truth values have no order. -/
def link (column : Nat) (left : Tree) (relation : Relation) (right : Tree) :
    Except FormulaError Tree :=
  match comparison? relation with
  | none => s.refuse column ("comparison " ++ relation.name ++ " is not allowed")
  | some op =>
      if left.kind ≠ right.kind then
        s.refuse column ("cannot compare " ++ left.kind.name ++ " with " ++ right.kind.name)
      else if op.isOrder && !left.kind.isOrdered then
        s.refuse column ("'" ++ op.symbol ++ "' is not defined for " ++ left.kind.name)
      else .ok (.binary (.comparison op) left right .boolean)

/-- Each operand of a chain is compared with the next one. -/
def links (column : Nat) : Tree → List (Relation × Tree) → Except FormulaError (List Tree)
  | _, [] => .ok []
  | left, (relation, right) :: rest => do
      let first ← s.link column left relation right
      let others ← links column right rest
      return first :: others

def comparison (column : Nat) (left : Tree) (rest : List (Relation × Tree)) :
    Except FormulaError Tree := do
  match ← s.links column left rest with
  | first :: others => return joined .and first others
  | [] => s.refuse column "nothing to compare"

/-- The function of a call, once its name and the number of its arguments are seen to be right. -/
def callee (column : Nat) (target : Surface) (args named : List Surface) :
    Except FormulaError Function :=
  match target with
  | .name _ n =>
      if !named.isEmpty then s.refuse column (n ++ "() does not take keyword arguments")
      else if args.any Surface.isStarred then
        s.refuse column (n ++ "() does not take star arguments")
      else
        match s.registry.find? n with
        | none => s.refuse column ("unknown function " ++ Text.quoted n)
        | some f =>
            if f.accepts args.length then .ok f
            else s.refuse column
              (n ++ "() takes " ++ f.arityText ++ " argument(s), got " ++ intText args.length)
  | _ => s.refuse column "only named functions can be called"

def misplaced? (position : Nat) : List Kind → List Tree → Option (Nat × Kind × Kind)
  | k :: ks, e :: es =>
      if e.kind = k then misplaced? (position + 1) ks es else some (position, k, e.kind)
  | _, _ => none

def call (column : Nat) (f : Function) (args : List Tree) : Except FormulaError Tree :=
  match misplaced? 1 f.params args with
  | some (position, wanted, got) =>
      s.refuse column
        (f.name ++ "() argument " ++ intText position ++ " must be a " ++ wanted.name ++ ", got " ++
          got.name)
  | none => .ok (.call f.name args f.returns)

mutual

def lower : Surface → Except FormulaError Tree
  | .constant c v => s.constant c v
  | .name c n => s.name c n
  | .unary c op e => do
      let operand ← lower e
      s.unary c op operand
  | .binary c op l r =>
      match arithmetic? op with
      | none => s.refuse c (infixRefusal op)
      | some op => do
          let left ← lower l
          let right ← lower r
          s.binary c op left right
  | .connective c conjunction es => do
      let operands ← lowerAll es
      s.connective c conjunction operands
  | .comparison c l ls => do
      let left ← lower l
      let rest ← lowerLinks ls
      s.comparison c left rest
  | .call c target args named => do
      let f ← s.callee c target args named
      let args ← lowerAll args
      s.call c f args
  | .other c construct _ => s.refuse c construct.refusal

def lowerAll : List Surface → Except FormulaError (List Tree)
  | [] => .ok []
  | e :: es => do
      let first ← lower e
      let rest ← lowerAll es
      return first :: rest

def lowerLinks : List (Relation × Surface) → Except FormulaError (List (Relation × Tree))
  | [] => .ok []
  | l :: ls => do
      let first ← lowerLink l
      let rest ← lowerLinks ls
      return first :: rest

def lowerLink : Relation × Surface → Except FormulaError (Relation × Tree)
  | (relation, e) => do
      let right ← lower e
      return (relation, right)

end

end Scope

end Appraisal.Formula
