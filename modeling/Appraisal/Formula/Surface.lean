import Appraisal.Number.Notation
import Appraisal.Text.Quoted

/-!
# Expressions as written

The tree of a formula text before any typing. Formulas share the syntax of a general expression
language, of which only a small part has a meaning here. The constructs outside that part are kept as
`other` with their sub-expressions, so that they can be refused by name and counted.

Every node carries the column where it starts: the number of bytes before it in its line, plus one.
-/

namespace Appraisal.Formula

inductive Constant
  | none
  | ellipsis
  | truth (b : Bool)
  | whole (n : Nat)
  | double (x : Float)
  | imaginary (x : Float)
  | text (t : Text)
  | bytes (b : List Nat)

def shownByte (quote : Char) (b : Nat) : List Char :=
  let c := Char.ofNat b
  if c = quote || c = '\\' then ['\\', c]
  else if c = '\t' then ['\\', 't']
  else if c = '\n' then ['\\', 'n']
  else if c = '\r' then ['\\', 'r']
  else if 0x20 ≤ b && b < 0x7F then [c]
  else '\\' :: 'x' :: Text.hex 2 b

def shownBytes (b : List Nat) : String :=
  let q := Text.quoteFor (b.map .ofCode)
  String.ofList ('b' :: q :: b.flatMap (shownByte q) ++ [q])

namespace Constant

def shown : Constant → String
  | none => "None"
  | ellipsis => "Ellipsis"
  | truth b => if b then "True" else "False"
  | whole n => intText n
  | double x => floatText x
  | imaginary x => imaginaryNotation.text x ++ "j"
  | text t => t.quoted
  | bytes b => shownBytes b

end Constant

inductive PrefixOperator
  | negate
  | plus
  | not
  | invert
  deriving DecidableEq, Repr

inductive InfixOperator
  | add | sub | mul | div | mod
  | power | floorDiv | matMul
  | bitAnd | bitOr | bitXor | shiftLeft | shiftRight
  deriving DecidableEq, Repr

namespace InfixOperator

def name : InfixOperator → String
  | add => "Add"
  | sub => "Sub"
  | mul => "Mult"
  | div => "Div"
  | mod => "Mod"
  | power => "Pow"
  | floorDiv => "FloorDiv"
  | matMul => "MatMult"
  | bitAnd => "BitAnd"
  | bitOr => "BitOr"
  | bitXor => "BitXor"
  | shiftLeft => "LShift"
  | shiftRight => "RShift"

end InfixOperator

inductive Relation
  | eq | ne | lt | le | gt | ge
  | member | notMember | same | notSame
  deriving DecidableEq, Repr

namespace Relation

def name : Relation → String
  | eq => "Eq"
  | ne => "NotEq"
  | lt => "Lt"
  | le => "LtE"
  | gt => "Gt"
  | ge => "GtE"
  | member => "In"
  | notMember => "NotIn"
  | same => "Is"
  | notSame => "IsNot"

end Relation

/-- The constructs that formulas share with the general language and that have no meaning here. -/
inductive Construct
  | conditional
  | attributeAccess
  | subscript
  | lambda
  | assignment
  | comprehension
  | list
  | tuple
  | set
  | dict
  | joinedText
  | formattedValue
  | slice
  | starred
  | yield
  | yieldFrom
  | await
  /-- What stands where the nesting goes too deep. -/
  | tooDeep
  deriving DecidableEq, Repr

namespace Construct

def refusal : Construct → String
  | conditional =>
      "conditional expressions are not supported, use if_else(condition, a, b)"
  | attributeAccess => "attribute access is not allowed"
  | subscript => "subscripts are not allowed"
  | lambda => "lambda expressions are not allowed"
  | assignment => "assignment is not allowed"
  | comprehension => "comprehensions are not allowed"
  | list => "List expressions are not allowed"
  | tuple => "Tuple expressions are not allowed"
  | set => "Set expressions are not allowed"
  | dict => "Dict expressions are not allowed"
  | joinedText => "JoinedStr expressions are not allowed"
  | formattedValue => "FormattedValue expressions are not allowed"
  | slice => "Slice expressions are not allowed"
  | starred => "Starred expressions are not allowed"
  | yield => "Yield expressions are not allowed"
  | yieldFrom => "YieldFrom expressions are not allowed"
  | await => "Await expressions are not allowed"
  | tooDeep => "formula is nested too deeply"

end Construct

inductive Surface
  | constant (column : Nat) (value : Constant)
  | name (column : Nat) (id : String)
  | unary (column : Nat) (op : PrefixOperator) (operand : Surface)
  | binary (column : Nat) (op : InfixOperator) (left right : Surface)
  /-- Two or more operands joined by `and`, or by `or`. -/
  | connective (column : Nat) (conjunction : Bool) (operands : List Surface)
  | comparison (column : Nat) (left : Surface) (links : List (Relation × Surface))
  /-- A call with its positional and its named arguments. -/
  | call (column : Nat) (callee : Surface) (args : List Surface) (named : List Surface)
  | other (column : Nat) (construct : Construct) (parts : List Surface)

namespace Surface

def column : Surface → Nat
  | constant c _ => c
  | name c _ => c
  | unary c _ _ => c
  | binary c _ _ _ => c
  | connective c _ _ => c
  | comparison c _ _ => c
  | call c _ _ _ => c
  | other c _ _ => c

def isStarred : Surface → Bool
  | other _ .starred _ => true
  | _ => false

mutual

/-- How many expressions stand below an expression. What is called counts as a part of its call. -/
def inner : Surface → Nat
  | constant .. => 0
  | name .. => 0
  | unary _ _ e => e.inner + 1
  | binary _ _ l r => (l.inner + 1) + (r.inner + 1)
  | connective _ _ es => sizes es
  | comparison _ l links => (l.inner + 1) + linkSizes links
  | call _ f args named => f.inner + sizes args + sizes named
  | other _ _ parts => sizes parts

def sizes : List Surface → Nat
  | [] => 0
  | e :: es => (e.inner + 1) + sizes es

def linkSizes : List (Relation × Surface) → Nat
  | [] => 0
  | l :: ls => linkSize l + linkSizes ls

def linkSize : Relation × Surface → Nat
  | (_, e) => e.inner + 1

end

def size (e : Surface) : Nat := e.inner + 1

mutual

def depth : Surface → Nat
  | constant .. => 1
  | name .. => 1
  | unary _ _ e => e.depth + 1
  | binary _ _ l r => max l.depth r.depth + 1
  | connective _ _ es => depths es + 1
  | comparison _ l links => max l.depth (linkDepths links) + 1
  | call _ f args named => max f.depth (max (depths args) (depths named)) + 1
  | other _ _ parts => depths parts + 1

def depths : List Surface → Nat
  | [] => 0
  | e :: es => max e.depth (depths es)

def linkDepths : List (Relation × Surface) → Nat
  | [] => 0
  | l :: ls => max (linkDepth l) (linkDepths ls)

def linkDepth : Relation × Surface → Nat
  | (_, e) => e.depth

end

def tooDeep : Surface := other 0 .tooDeep []

mutual

/-- The expression with everything below a number of levels left out. What is called stays, since
it is not looked into. -/
def pruned : Nat → Surface → Surface
  | _, constant c v => constant c v
  | _, name c n => name c n
  | _, other c k parts => other c k parts
  | 0, _ => tooDeep
  | n + 1, unary c op e => unary c op (pruned n e)
  | n + 1, binary c op l r => binary c op (pruned n l) (pruned n r)
  | n + 1, connective c b es => connective c b (allPruned n es)
  | n + 1, comparison c l links => comparison c (pruned n l) (linksPruned n links)
  | n + 1, call c f args named => call c f (allPruned n args) named

def allPruned : Nat → List Surface → List Surface
  | _, [] => []
  | n, e :: es => pruned n e :: allPruned n es

def linksPruned : Nat → List (Relation × Surface) → List (Relation × Surface)
  | _, [] => []
  | n, l :: ls => linkPruned n l :: linksPruned n ls

def linkPruned : Nat → Relation × Surface → Relation × Surface
  | n, (r, e) => (r, pruned n e)

end

end Surface

end Appraisal.Formula
