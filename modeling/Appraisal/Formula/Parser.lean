import Appraisal.Formula.Escape
import Appraisal.Formula.Template
import Appraisal.Formula.Token

/-!
# From tokens to expressions

A recursive descent over the lexemes of a formula. Every function reads an expression from the head
of the lexemes; its first argument bounds how deep the descent goes. The whole grammar of the shared
expression language is read, so that a formula outside the part with a meaning is told apart from a
text that is no expression.
-/

namespace Appraisal.Formula

abbrev Parser := StateT (List Lexeme) Option

namespace Parser

def here : Parser Nat := do
  match ← get with
  | l :: _ => return l.offset + 1
  | [] => return 0

def next? : Parser (Option Token) := do
  return (← get).head?.map Lexeme.token

def skip : Parser Unit :=
  modify List.tail

def isSymbol (k : String) : Parser Bool := do
  match ← next? with
  | some (.op s) => return s = k
  | _ => return false

def isAnySymbol (ks : List String) : Parser Bool := do
  match ← next? with
  | some (.op s) => return ks.contains s
  | _ => return false

def isWord (w : String) : Parser Bool := do
  match ← next? with
  | some (.keyword s) => return s = w
  | _ => return false

def symbol (k : String) : Parser Bool := do
  if ← isSymbol k then skip; return true else return false

def word (w : String) : Parser Bool := do
  if ← isWord w then skip; return true else return false

def mustSymbol (k : String) : Parser Unit := do
  if ← symbol k then return () else failure

def mustWord (w : String) : Parser Unit := do
  if ← word w then return () else failure

def mustName : Parser String := do
  match ← next? with
  | some (.name s) => skip; return s
  | _ => failure

/-- A name in front of a certain symbol; both are read. -/
def nameBefore? (k : String) : Parser (Option (Nat × String)) := do
  match ← get with
  | ⟨.name s, offset⟩ :: ⟨.op k', _⟩ :: rest =>
      if k' = k then set rest; return some (offset + 1, s) else return none
  | _ => return none

/-- Does a name come next that a value is given to? -/
def isAssigned : Parser Bool := do
  match ← get with
  | ⟨.name _, _⟩ :: ⟨.op ":=", _⟩ :: _ => return true
  | _ => return false

def pieces : List Lexeme → List Piece × List Lexeme
  | ⟨.string p, _⟩ :: rest =>
      let r := pieces rest
      (p :: r.1, r.2)
  | rest => ([], rest)

def relation? : Parser (Option Relation) := do
  match ← get with
  | ⟨.op "==", _⟩ :: rest => set rest; return some .eq
  | ⟨.op "!=", _⟩ :: rest => set rest; return some .ne
  | ⟨.op "<", _⟩ :: rest => set rest; return some .lt
  | ⟨.op "<=", _⟩ :: rest => set rest; return some .le
  | ⟨.op ">", _⟩ :: rest => set rest; return some .gt
  | ⟨.op ">=", _⟩ :: rest => set rest; return some .ge
  | ⟨.keyword "in", _⟩ :: rest => set rest; return some .member
  | ⟨.keyword "not", _⟩ :: ⟨.keyword "in", _⟩ :: rest => set rest; return some .notMember
  | ⟨.keyword "is", _⟩ :: ⟨.keyword "not", _⟩ :: rest => set rest; return some .notSame
  | ⟨.keyword "is", _⟩ :: rest => set rest; return some .same
  | _ => return none

/-- The infix operators by how weakly they bind, the weakest first. -/
def infixLevels : List (List (String × InfixOperator)) :=
  [[("|", .bitOr)],
   [("^", .bitXor)],
   [("&", .bitAnd)],
   [("<<", .shiftLeft), (">>", .shiftRight)],
   [("+", .add), ("-", .sub)],
   [("*", .mul), ("/", .div), ("//", .floorDiv), ("%", .mod), ("@", .matMul)]]

def infixOperator? (ops : List (String × InfixOperator)) : Parser (Option InfixOperator) := do
  match ← next? with
  | some (.op s) =>
      match ops.lookup s with
      | some op => skip; return some op
      | none => return none
  | _ => return none

def sign? : Parser (Option PrefixOperator) := do
  match ← next? with
  | some (.op "-") => skip; return some .negate
  | some (.op "+") => skip; return some .plus
  | some (.op "~") => skip; return some .invert
  | _ => return none

/-- May an expression stand where a comprehension gives the name of what it runs over? -/
def isTarget : Surface → Bool
  | .name .. => true
  | .other _ .attributeAccess _ => true
  | .other _ .subscript _ => true
  | .other _ .tuple es => areTargets es
  | .other _ .list es => areTargets es
  | .other _ .starred es => areTargets es
  | _ => false
where
  areTargets : List Surface → Bool
    | [] => true
    | e :: es => isTarget e && areTargets es

structure Parameters where
  count : Nat := 0
  positionalEnd : Bool := false
  star : Bool := false
  /-- A bare star needs a parameter after it. -/
  owing : Bool := false
  closed : Bool := false
  defaults : List Surface := []

/-- The names of parameters and arguments are not part of the tree: one value stands for each. -/
structure Arguments where
  positional : List Surface := []
  named : List Surface := []

def literal (body : List Letter) (c : Nat) : List Surface :=
  if body.isEmpty then [] else [.constant c (.text (.ofList body))]

mutual

def expression : Nat → Parser Surface
  | 0 => failure
  | fuel + 1 => do
    let c ← here
    if ← word "lambda" then
      let ps ← parameters fuel {}
      mustSymbol ":"
      let body ← expression fuel
      return .other c .lambda (ps.defaults ++ [body])
    else
      let e ← disjunction fuel
      if ← word "if" then
        let test ← disjunction fuel
        mustWord "else"
        let alternative ← expression fuel
        return .other c .conditional [test, e, alternative]
      else return e

def parameters : Nat → Parameters → Parser Parameters
  | 0, _ => failure
  | fuel + 1, ps => do
    if ← isSymbol ":" then
      if ps.owing then failure else return ps
    else if ps.closed then failure
    else if ← symbol "/" then
      if ps.count = 0 || ps.positionalEnd || ps.star then failure
      else continueAfter fuel { ps with positionalEnd := true }
    else if ← symbol "**" then
      if ps.owing then failure
      else
        let _ ← mustName
        continueAfter fuel { ps with closed := true }
    else if ← symbol "*" then
      if ps.star then failure
      else if ← symbol "," then parameters fuel { ps with star := true, owing := true }
      else
        let _ ← mustName
        continueAfter fuel { ps with star := true }
    else
      let _ ← mustName
      let ps := { ps with count := ps.count + 1, owing := false }
      if ← symbol "=" then
        let e ← expression fuel
        continueAfter fuel { ps with defaults := ps.defaults ++ [e] }
      else if !ps.star && !ps.defaults.isEmpty then failure
      else continueAfter fuel ps

def continueAfter : Nat → Parameters → Parser Parameters
  | 0, _ => failure
  | fuel + 1, ps => do
    if ← symbol "," then parameters fuel ps
    else if ← isSymbol ":" then
      if ps.owing then failure else return ps
    else failure

def disjunction : Nat → Parser Surface
  | 0 => failure
  | fuel + 1 => do
    let c ← here
    let e ← conjunction fuel
    match ← disjuncts fuel with
    | [] => return e
    | es => return .connective c false (e :: es)

def disjuncts : Nat → Parser (List Surface)
  | 0 => failure
  | fuel + 1 => do
    if ← word "or" then
      let e ← conjunction fuel
      return e :: (← disjuncts fuel)
    else return []

def conjunction : Nat → Parser Surface
  | 0 => failure
  | fuel + 1 => do
    let c ← here
    let e ← inversion fuel
    match ← conjuncts fuel with
    | [] => return e
    | es => return .connective c true (e :: es)

def conjuncts : Nat → Parser (List Surface)
  | 0 => failure
  | fuel + 1 => do
    if ← word "and" then
      let e ← inversion fuel
      return e :: (← conjuncts fuel)
    else return []

def inversion : Nat → Parser Surface
  | 0 => failure
  | fuel + 1 => do
    let c ← here
    if ← word "not" then return .unary c .not (← inversion fuel)
    else
      let e ← operand fuel infixLevels
      match ← links fuel with
      | [] => return e
      | ls => return .comparison c e ls

def links : Nat → Parser (List (Relation × Surface))
  | 0 => failure
  | fuel + 1 => do
    match ← relation? with
    | some r =>
        let e ← operand fuel infixLevels
        return (r, e) :: (← links fuel)
    | none => return []

/-- An operand of the operators that bind as weakly as the first of these levels, or stronger. -/
def operand : Nat → List (List (String × InfixOperator)) → Parser Surface
  | 0, _ => failure
  | fuel + 1, [] => factor fuel
  | fuel + 1, ops :: levels => do
    let c ← here
    let e ← operand fuel levels
    operands fuel c ops levels e

/-- Operators of one level group to the left. -/
def operands : Nat → Nat → List (String × InfixOperator) →
    List (List (String × InfixOperator)) → Surface → Parser Surface
  | 0, _, _, _, _ => failure
  | fuel + 1, c, ops, levels, left => do
    match ← infixOperator? ops with
    | some op =>
        let right ← operand fuel levels
        operands fuel c ops levels (.binary c op left right)
    | none => return left

def factor : Nat → Parser Surface
  | 0 => failure
  | fuel + 1 => do
    let c ← here
    match ← sign? with
    | some op => return .unary c op (← factor fuel)
    | none =>
        let base ←
          if ← word "await" then
            let c' ← here
            let e ← atom fuel
            pure (.other c .await [← trailers fuel c' e])
          else
            let e ← atom fuel
            trailers fuel c e
        if ← symbol "**" then return .binary c .power base (← factor fuel)
        else return base

/-- What follows an expression without a blank of its own: names, arguments and subscripts. -/
def trailers : Nat → Nat → Surface → Parser Surface
  | 0, _, _ => failure
  | fuel + 1, c, e => do
    let start ← here
    if ← symbol "." then
      let _ ← mustName
      trailers fuel c (.other c .attributeAccess [e])
    else if ← symbol "(" then
      let args ← arguments fuel start
      trailers fuel c (.call c e args.positional args.named)
    else if ← symbol "[" then
      let i ← subscript fuel
      trailers fuel c (.other c .subscript [e, i])
    else return e

def arguments : Nat → Nat → Parser Arguments
  | 0, _ => failure
  | fuel + 1, start => do
    if ← symbol ")" then return {}
    else if ← isAnySymbol ["*", "**"] then furtherArguments fuel false false {}
    else
      match ← get with
      | ⟨.name _, _⟩ :: ⟨.op "=", _⟩ :: _ => furtherArguments fuel false false {}
      | _ =>
          let e ← assignable fuel
          if ← isComprehension then
            let parts ← clauses fuel
            mustSymbol ")"
            return { positional := [.other start .comprehension (e :: parts)] }
          else if ← symbol ")" then return { positional := [e] }
          else
            mustSymbol ","
            furtherArguments fuel false false { positional := [e] }

/-- More arguments. After a named one the rest are named or starred; after a doubly starred one
they are named or doubly starred. -/
def furtherArguments : Nat → Bool → Bool → Arguments → Parser Arguments
  | 0, _, _, _ => failure
  | fuel + 1, named, doubled, args => do
    if ← symbol ")" then return args
    else
      let c ← here
      let more (named doubled : Bool) (args : Arguments) : Parser Arguments := do
        if ← symbol ")" then return args
        else
          mustSymbol ","
          furtherArguments fuel named doubled args
      if ← symbol "**" then
        let e ← expression fuel
        more true true { args with named := args.named ++ [e] }
      else if ← symbol "*" then
        if doubled then failure
        else
          let e ← expression fuel
          more named doubled { args with positional := args.positional ++ [.other c .starred [e]] }
      else
        match ← nameBefore? "=" with
        | some _ =>
            let e ← expression fuel
            more true doubled { args with named := args.named ++ [e] }
        | none =>
            if named then failure
            else
              let e ← assignable fuel
              more named doubled { args with positional := args.positional ++ [e] }

def subscript : Nat → Parser Surface
  | 0 => failure
  | fuel + 1 => do
    let c ← here
    let e ← sliceItem fuel
    if ← symbol "]" then
      if e.isStarred then return .other c .tuple [e] else return e
    else
      mustSymbol ","
      return .other c .tuple (e :: (← sliceItems fuel))

def sliceItems : Nat → Parser (List Surface)
  | 0 => failure
  | fuel + 1 => do
    if ← symbol "]" then return []
    else
      let e ← sliceItem fuel
      if ← symbol "]" then return [e]
      else
        mustSymbol ","
        return e :: (← sliceItems fuel)

def sliceItem : Nat → Parser Surface
  | 0 => failure
  | fuel + 1 => do
    let c ← here
    if ← symbol "*" then return .other c .starred [← expression fuel]
    else if ← symbol ":" then
      return .other c .slice (← sliceEnd fuel)
    else if ← isAssigned then assignable fuel
    else
      let e ← expression fuel
      if ← symbol ":" then
        return .other c .slice (e :: (← sliceEnd fuel))
      else return e

def sliceEnd : Nat → Parser (List Surface)
  | 0 => failure
  | fuel + 1 => do
    let stop ← sliceBound fuel
    if ← symbol ":" then
      let step ← sliceBound fuel
      return stop ++ step
    else return stop

def sliceBound : Nat → Parser (List Surface)
  | 0 => failure
  | fuel + 1 => do
    if ← isAnySymbol [":", ",", "]"] then return []
    else return [← expression fuel]

/-- An expression, perhaps with a name that its value is given to. -/
def assignable : Nat → Parser Surface
  | 0 => failure
  | fuel + 1 => do
    match ← nameBefore? ":=" with
    | some (c, n) =>
        let e ← expression fuel
        return .other c .assignment [.name c n, e]
    | none => expression fuel

def item : Nat → Parser Surface
  | 0 => failure
  | fuel + 1 => do
    let c ← here
    if ← symbol "*" then return .other c .starred [← operand fuel infixLevels]
    else assignable fuel

def items : Nat → String → Parser (List Surface)
  | 0, _ => failure
  | fuel + 1, closing => do
    if ← symbol closing then return []
    else
      let e ← item fuel
      if ← symbol closing then return [e]
      else
        mustSymbol ","
        return e :: (← items fuel closing)

def isComprehension : Parser Bool := do
  if ← isWord "for" then return true else isWord "async"

def clauses : Nat → Parser (List Surface)
  | 0 => failure
  | fuel + 1 => do
    if ← isComprehension then
      let _ ← word "async"
      mustWord "for"
      let t ← targets fuel
      mustWord "in"
      let source ← disjunction fuel
      let tests ← conditions fuel
      return t :: source :: tests ++ (← clauses fuel)
    else return []

def conditions : Nat → Parser (List Surface)
  | 0 => failure
  | fuel + 1 => do
    if ← word "if" then
      let e ← disjunction fuel
      return e :: (← conditions fuel)
    else return []

def targets : Nat → Parser Surface
  | 0 => failure
  | fuel + 1 => do
    let c ← here
    let t ← target fuel
    if ← symbol "," then return .other c .tuple (t :: (← furtherTargets fuel))
    else return t

def furtherTargets : Nat → Parser (List Surface)
  | 0 => failure
  | fuel + 1 => do
    if ← isWord "in" then return []
    else
      let t ← target fuel
      if ← symbol "," then return t :: (← furtherTargets fuel)
      else return [t]

def target : Nat → Parser Surface
  | 0 => failure
  | fuel + 1 => do
    let c ← here
    if ← symbol "*" then
      let c' ← here
      let e ← atom fuel
      let e ← trailers fuel c' e
      if isTarget e then return .other c .starred [e] else failure
    else
      let e ← atom fuel
      let e ← trailers fuel c e
      if isTarget e then return e else failure

def atom : Nat → Parser Surface
  | 0 => failure
  | fuel + 1 => do
    let c ← here
    match ← next? with
    | some (.name n) => skip; return .name c n
    | some (.number v) => skip; return .constant c v
    | some (.keyword "True") => skip; return .constant c (.truth true)
    | some (.keyword "False") => skip; return .constant c (.truth false)
    | some (.keyword "None") => skip; return .constant c .none
    | some (.op "...") => skip; return .constant c .ellipsis
    | some (.op "(") => skip; parenthesis fuel c
    | some (.op "[") => skip; bracket fuel c
    | some (.op "\x7b") => skip; brace fuel c
    | some (.string _) =>
        let (ps, rest) := pieces (← get)
        set rest
        quoted fuel c ps
    | _ => failure

def parenthesis : Nat → Nat → Parser Surface
  | 0, _ => failure
  | fuel + 1, c => do
    if ← symbol ")" then return .other c .tuple []
    else if ← isWord "yield" then
      let e ← yielded fuel
      mustSymbol ")"
      return e
    else
      let e ← item fuel
      if ← symbol "," then return .other c .tuple (e :: (← items fuel ")"))
      else if e.isStarred then failure
      else if ← isComprehension then
        let parts ← clauses fuel
        mustSymbol ")"
        return .other c .comprehension (e :: parts)
      else
        mustSymbol ")"
        return e

def yielded : Nat → Parser Surface
  | 0 => failure
  | fuel + 1 => do
    let c ← here
    mustWord "yield"
    if ← word "from" then return .other c .yieldFrom [← expression fuel]
    else if ← isSymbol ")" then return .other c .yield []
    else return .other c .yield [← starExpressions fuel]

def starExpressions : Nat → Parser Surface
  | 0 => failure
  | fuel + 1 => do
    let c ← here
    let e ← starExpression fuel
    if ← symbol "," then return .other c .tuple (e :: (← furtherExpressions fuel))
    else return e

def furtherExpressions : Nat → Parser (List Surface)
  | 0 => failure
  | fuel + 1 => do
    if (← isSymbol ")") || (← get).isEmpty then return []
    else
      let e ← starExpression fuel
      if ← symbol "," then return e :: (← furtherExpressions fuel)
      else return [e]

def starExpression : Nat → Parser Surface
  | 0 => failure
  | fuel + 1 => do
    let c ← here
    if ← symbol "*" then return .other c .starred [← operand fuel infixLevels]
    else expression fuel

def bracket : Nat → Nat → Parser Surface
  | 0, _ => failure
  | fuel + 1, c => do
    if ← symbol "]" then return .other c .list []
    else
      let e ← item fuel
      if ← isComprehension then
        if e.isStarred then failure
        else
          let parts ← clauses fuel
          mustSymbol "]"
          return .other c .comprehension (e :: parts)
      else if ← symbol "]" then return .other c .list [e]
      else
        mustSymbol ","
        return .other c .list (e :: (← items fuel "]"))

def brace : Nat → Nat → Parser Surface
  | 0, _ => failure
  | fuel + 1, c => do
    if ← isAnySymbol ["\x7d", "**"] then return .other c .dict (← entries fuel)
    else if (← isSymbol "*") || (← isAssigned) then setAfter fuel c (← item fuel)
    else
      let e ← expression fuel
      if ← symbol ":" then
        let v ← expression fuel
        if ← isComprehension then
          let parts ← clauses fuel
          mustSymbol "\x7d"
          return .other c .comprehension (e :: v :: parts)
        else if ← symbol "\x7d" then return .other c .dict [e, v]
        else
          mustSymbol ","
          return .other c .dict (e :: v :: (← entries fuel))
      else setAfter fuel c e

def setAfter : Nat → Nat → Surface → Parser Surface
  | 0, _, _ => failure
  | fuel + 1, c, e => do
    if ← isComprehension then
      if e.isStarred then failure
      else
        let parts ← clauses fuel
        mustSymbol "\x7d"
        return .other c .comprehension (e :: parts)
    else if ← symbol "\x7d" then return .other c .set [e]
    else
      mustSymbol ","
      return .other c .set (e :: (← items fuel "\x7d"))

def entries : Nat → Parser (List Surface)
  | 0 => failure
  | fuel + 1 => do
    if ← symbol "\x7d" then return []
    else
      let entry ←
        if ← symbol "**" then pure [← operand fuel infixLevels]
        else
          let k ← expression fuel
          mustSymbol ":"
          pure [k, ← expression fuel]
      if ← symbol "\x7d" then return entry
      else
        mustSymbol ","
        return entry ++ (← entries fuel)

/-- The value of pieces of text that stand next to each other. Text and bytes do not mix. -/
def quoted : Nat → Nat → List Piece → Parser Surface
  | 0, _, _ => failure
  | fuel + 1, c, ps => do
    if ps.all Piece.bytes then
      match ps.mapM (fun p => bytesOf? p.raw p.body) with
      | some bs => return .constant c (.bytes bs.flatten)
      | none => failure
    else if ps.any Piece.bytes then failure
    else
      let (parts, pending) ← quotedParts fuel c ps []
      if ps.any Piece.formatted then
        return .other c .joinedText (parts ++ literal pending c)
      else return .constant c (.text (.ofList pending))

/-- The parts of pieces of text; `pending` is the literal text that no part holds yet. -/
def quotedParts : Nat → Nat → List Piece → List Letter → Parser (List Surface × List Letter)
  | 0, _, _, _ => failure
  | _ + 1, _, [], pending => return ([], pending)
  | fuel + 1, c, p :: ps, pending => do
    if p.formatted then
      match Run.ofBody? p.raw p.body with
      | some runs =>
          let (before, pending) ← runParts fuel c p.raw runs pending
          let (after, pending) ← quotedParts fuel c ps pending
          return (before ++ after, pending)
      | none => failure
    else
      match textOf? p.raw p.body with
      | some s => quotedParts fuel c ps (pending ++ s)
      | none => failure

def runParts :
    Nat → Nat → Bool → List Run → List Letter → Parser (List Surface × List Letter)
  | 0, _, _, _, _ => failure
  | _ + 1, _, _, [], pending => return ([], pending)
  | fuel + 1, c, raw, .literal body :: runs, pending => do
    match textOf? raw body with
    | some s => runParts fuel c raw runs (pending ++ s)
    | none => failure
  | fuel + 1, c, raw, .field e shown format :: runs, pending => do
    match lex? ('(' :: e ++ [')']) with
    | none => failure
    | some tokens =>
        let rest ← get
        set tokens
        let inner ← starExpressions fuel
        unless (← get).isEmpty do failure
        set rest
        let specification ←
          match format with
          | none => pure []
          | some format =>
              let (parts, pending) ← runParts fuel c raw format []
              pure [Surface.other c .joinedText (parts ++ literal pending c)]
        let field := Surface.other c .formattedValue (inner :: specification)
        let (after, left) ← runParts fuel c raw runs []
        return (literal (pending ++ shown.map .char) c ++ field :: after, left)

end

/-- A whole formula: one expression, or several with commas between them. -/
def formula (fuel : Nat) : Parser Surface := do
  let c ← here
  let e ← expression fuel
  let e ←
    if ← symbol "," then
      let rest ← more fuel
      pure (.other c .tuple (e :: rest))
    else pure e
  if (← get).all (fun l => l.token matches .lineEnd) then return e else failure
where
  more : Nat → Parser (List Surface)
    | 0 => failure
    | fuel + 1 => do
      match ← next? with
      | none => return []
      | some .lineEnd => return []
      | some _ =>
          let e ← expression (fuel + 1)
          if ← symbol "," then return e :: (← more fuel) else return [e]

end Parser

def Surface.parse? (s : List Char) : Option Surface :=
  match lex? s with
  | some tokens => ((Parser.formula (40 * (s.length + 1))).run tokens).map Prod.fst
  | none => none

end Appraisal.Formula
