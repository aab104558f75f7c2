import Appraisal.Formula.Kind

/-!
# Typed formula trees

What a formula means once its text is forgotten: literals, variables, operators and calls, each with
the kind of its value. A tree that was not made by the compiler can hold any operator and any kind.
-/

namespace Appraisal.Formula

inductive Arithmetic
  | add | sub | mul | div | mod
  deriving DecidableEq, Repr

inductive Comparison
  | eq | ne | lt | le | gt | ge
  deriving DecidableEq, Repr

inductive UnaryOperator
  | negate
  | plus
  | not
  | unknown (symbol : Text)
  deriving DecidableEq, Repr

inductive BinaryOperator
  | arithmetic (op : Arithmetic)
  | comparison (op : Comparison)
  | and
  | or
  | unknown (symbol : Text)
  deriving DecidableEq, Repr

def Arithmetic.symbol : Arithmetic → String
  | add => "+"
  | sub => "-"
  | mul => "*"
  | div => "/"
  | mod => "%"

def Comparison.symbol : Comparison → String
  | eq => "=="
  | ne => "!="
  | lt => "<"
  | le => "<="
  | gt => ">"
  | ge => ">="

/-- Does a comparison ask for the order of its operands, and not only whether they are equal? -/
def Comparison.isOrder : Comparison → Bool
  | eq => false
  | ne => false
  | _ => true

namespace UnaryOperator

def symbol : UnaryOperator → Text
  | negate => "-"
  | plus => "+"
  | not => "not"
  | unknown s => s

def ofSymbol (s : Text) : UnaryOperator :=
  if s = "-" then negate else if s = "+" then plus else if s = "not" then not else unknown s

end UnaryOperator

namespace BinaryOperator

def symbol : BinaryOperator → Text
  | arithmetic op => op.symbol
  | comparison op => op.symbol
  | and => "and"
  | or => "or"
  | unknown s => s

def known : List BinaryOperator :=
  [.add, .sub, .mul, .div, .mod].map arithmetic ++
    [.eq, .ne, .lt, .le, .gt, .ge].map comparison ++ [and, or]

def ofSymbol (s : Text) : BinaryOperator :=
  (known.find? (fun op => op.symbol = s)).getD (unknown s)

end BinaryOperator

inductive Tree
  | literal (value : Datum) (kind : Kind)
  | reference (name : Text) (kind : Kind)
  | unary (op : UnaryOperator) (operand : Tree) (kind : Kind)
  | binary (op : BinaryOperator) (left right : Tree) (kind : Kind)
  | call (name : Text) (args : List Tree) (kind : Kind)

namespace Tree

def kind : Tree → Kind
  | literal _ k => k
  | reference _ k => k
  | unary _ _ k => k
  | binary _ _ _ k => k
  | call _ _ k => k

mutual

def count : Tree → Nat
  | literal .. => 1
  | reference .. => 1
  | unary _ e _ => 1 + e.count
  | binary _ l r _ => 1 + l.count + r.count
  | call _ args _ => 1 + counts args

def counts : List Tree → Nat
  | [] => 0
  | e :: es => e.count + counts es

end

end Tree

end Appraisal.Formula
