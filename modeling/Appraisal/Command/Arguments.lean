import Appraisal.Datum.Conversion

/-!
# Arguments of a command line

Arguments are options, which start with a hyphen and may be shortened as long as they stay unique, and
operands. A negative number and a text with a blank in it are operands even if they start with a
hyphen, and so is everything behind a double hyphen. Reading can stop because help is asked for or
because the arguments are misused; whichever comes first counts.
-/

namespace Appraisal.Command

inductive Stop
  | help
  | misuse
  deriving DecidableEq, Repr

namespace Stop

def code : Stop → Nat
  | help => 0
  | misuse => 2

end Stop

inductive OptionKind
  | help
  | flag
  | text
  | number
  deriving DecidableEq, Repr

structure OptionSpec where
  name : String
  kind : OptionKind
  deriving DecidableEq, Repr

def helpOptions : List OptionSpec := [⟨"-h", .help⟩, ⟨"--help", .help⟩]

inductive Role
  | operand
  | known (option : OptionSpec) (explicit : Option Text)
  | unknown
  | separator
  deriving DecidableEq, Repr

def hyphen : Letter := '-'

def isFigure (l : Letter) : Bool := l.isOf Text.isDigit

/-- Is a text a hyphen and a number without exponent? -/
def isNegativeNumber (s : List Letter) : Bool :=
  match s with
  | .char '-' :: s =>
      let s := if s.getLast? = some (.char '\n') then s.dropLast else s
      match s.dropWhile isFigure with
      | [] => !s.isEmpty
      | .char '.' :: fraction => !fraction.isEmpty && fraction.all isFigure
      | _ => false
  | _ => false

def splitEquals (s : List Letter) : List Letter × Option Text :=
  match s.dropWhile (· != .char '=') with
  | [] => (s, none)
  | _ :: value => (s.takeWhile (· != .char '='), some (.ofList value))

namespace OptionSpec

def letters (o : OptionSpec) : List Letter := (Text.ofString o.name).toList

end OptionSpec

/-- The options that a shortened form stands for. -/
def shortened (options : List OptionSpec) (s : List Letter) : List Role :=
  match s with
  | .char '-' :: .char '-' :: _ =>
      let (start, value) := splitEquals s
      (options.filter (fun o => start.isPrefixOf o.letters)).map (fun o => .known o value)
  | _ =>
      options.filterMap (fun o =>
        if o.letters = s.take 2 then some (.known o (some (.ofList (s.drop 2))))
        else if s.isPrefixOf o.letters then some (.known o none)
        else none)

def role (options : List OptionSpec) (arg : Text) : Except Stop Role :=
  let s := arg.toList
  let named (s : List Letter) : Option OptionSpec := options.find? (fun o => o.letters = s)
  if s.head? ≠ some hyphen then .ok .operand
  else
    match named s with
    | some o => .ok (.known o none)
    | none =>
        if s = [hyphen] then .ok .operand
        else
          let (start, value) := splitEquals s
          match value.bind (fun v => (named start).map (fun o => (o, v))) with
          | some (o, v) => .ok (.known o (some v))
          | none =>
              match shortened options s with
              | [r] => .ok r
              | _ :: _ => .error .misuse
              | [] =>
                  if isNegativeNumber s || s.contains ' ' then .ok .operand else .ok .unknown

def roles (options : List OptionSpec) : List Text → Except Stop (List (Text × Role))
  | [] => .ok []
  | a :: rest =>
      if a = "--" then .ok ((a, .separator) :: rest.map (fun a => (a, .operand)))
      else do
        let r ← role options a
        let others ← roles options rest
        return (a, r) :: others

/-- What the arguments of a command say: its operand, the values of its options, the last given of
each counting, and whether anything was left over. -/
structure Given where
  operand : Option Text := none
  values : List (String × Datum) := []
  hasRest : Bool := false

namespace Given

def text (g : Given) (name : String) (default : Text) : Text :=
  match (g.values.find? (fun v => v.1 = name)).map Prod.snd with
  | some (.text s) => s
  | _ => default

def number (g : Given) (name : String) : Float :=
  match (g.values.find? (fun v => v.1 = name)).map Prod.snd with
  | some (.double x) => x
  | _ => 0

def isSet (g : Given) (name : String) : Bool := g.values.any (fun v => v.1 = name)

def put (g : Given) (name : String) (value : Datum) : Given :=
  { g with values := (name, value) :: g.values }

/-- Takes an operand. What cannot be taken is left over. -/
def takeOperand (g : Given) (takesOperand : Bool) (arg : Text) : Given :=
  if takesOperand && g.operand.isNone then { g with operand := some arg }
  else { g with hasRest := true }

def takeValue (g : Given) (o : OptionSpec) (value : Text) : Except Stop Given :=
  if o.kind = .number then
    match readFloat? value with
    | some x => .ok (g.put o.name (.double x))
    | none => .error .misuse
  else .ok (g.put o.name (.text value))

def takeFlag (g : Given) (o : OptionSpec) (explicit : Option Text) : Except Stop Given :=
  match explicit with
  | none => if o.kind = .help then .error .help else .ok (g.put o.name (.truth true))
  | some s =>
      if o.name = "-h" && !s.isEmpty && s.toList.all (· == 'h') then .error .help else .error .misuse

end Given

/-- Takes the operands at the end, among which a double hyphen may stand. It goes with the operand
that is taken next to it and is left over otherwise. -/
def takeLast (takesOperand : Bool) (g : Given) : List (Text × Role) → Given
  | [] => g
  | (_, .separator) :: (a, _) :: rest =>
      if takesOperand && g.operand.isNone then
        rest.foldl (fun g r => g.takeOperand takesOperand r.1) { g with operand := some a }
      else { g with hasRest := true }
  | [(_, .separator)] => { g with hasRest := true }
  | (a, _) :: rest =>
      if takesOperand && g.operand.isNone then
        let g := { g with operand := some a }
        match rest with
        | (_, .separator) :: rest => { g with hasRest := g.hasRest || !rest.isEmpty }
        | rest => { g with hasRest := g.hasRest || !rest.isEmpty }
      else { g with hasRest := true }

def isOption : Role → Bool
  | .known .. => true
  | .unknown => true
  | _ => false

def take (takesOperand : Bool) (g : Given) : List (Text × Role) → Except Stop Given
  | [] => .ok g
  | (a, .operand) :: rest =>
      if rest.any (fun r => isOption r.2) then take takesOperand (g.takeOperand takesOperand a) rest
      else .ok (takeLast takesOperand g ((a, .operand) :: rest))
  | (a, .separator) :: rest => .ok (takeLast takesOperand g ((a, .separator) :: rest))
  | (_, .unknown) :: rest => take takesOperand { g with hasRest := true } rest
  | (_, .known o explicit) :: rest =>
      if o.kind = .help || o.kind = .flag then do
        let g ← g.takeFlag o explicit
        take takesOperand g rest
      else
        match explicit with
        | some value => do
            let g ← g.takeValue o value
            take takesOperand g rest
        | none =>
            match rest with
            | (value, .operand) :: rest => do
                let g ← g.takeValue o value
                take takesOperand g rest
            | _ => .error .misuse

structure Signature where
  name : String
  options : List OptionSpec
  takesOperand : Bool

namespace OptionSpec

def usage (o : OptionSpec) : String :=
  match o.kind with
  | .text => "[" ++ o.name ++ " TEXT]"
  | .number => "[" ++ o.name ++ " NUMBER]"
  | _ => "[" ++ o.name ++ "]"

end OptionSpec

namespace Signature

def usage (s : Signature) : String :=
  " ".intercalate
    (s.name :: s.options.map OptionSpec.usage ++ if s.takesOperand then ["OPERAND"] else [])

def read (s : Signature) (args : List Text) : Except Stop Given := do
  let roles ← roles (helpOptions ++ s.options) args
  let g ← take s.takesOperand {} roles
  if s.takesOperand && g.operand.isNone then throw .misuse
  return g

end Signature

/-- Reads a command and its arguments. Unknown options in front of the command are misuse, but only
once the command has been read. -/
def readCommand (commands : List Signature) (args : List Text) :
    Except Stop (Signature × Given) := do
  let roles ← roles helpOptions args
  start false roles
where
  start (hasRest : Bool) : List (Text × Role) → Except Stop (Signature × Given)
    | [] => .error .misuse
    | (_, .known o explicit) :: _ =>
        match Given.takeFlag {} o explicit with
        | .ok _ => .error .misuse
        | .error e => .error e
    | (_, .unknown) :: rest => start true rest
    | (_, .separator) :: _ => .error .misuse
    | (a, .operand) :: rest =>
        match commands.find? (fun c => c.name = a) with
        | none => .error .misuse
        | some c => do
            let g ← c.read (rest.map Prod.fst)
            if hasRest || g.hasRest then throw .misuse
            return (c, g)

end Appraisal.Command
