import Appraisal.Datum.Equality
import Appraisal.Formula.Program

/-!
# Evaluation

A tree is evaluated by walking it; every node that is visited costs a step, and the number of steps
is limited. Conjunction and disjunction stop at the operand that decides them; everything else looks
at all its operands from left to right. Every operation checks the kinds of its operands, so that a
tree made by hand fails instead of giving a wrong value.
-/

namespace Appraisal.Formula

structure Evaluation where
  source : Text
  registry : Registry
  environment : Environment
  limit : Int

abbrev Steps := StateT Nat (Except Fault)

namespace Evaluation

variable (v : Evaluation)

def failed (detail : Text) : Fault := .formula (.failed v.source detail)

def step : Steps Unit := fun n =>
  if v.limit < (n + 1 : Nat) then .error (.formula (.outOfSteps v.source v.limit))
  else .ok ((), n + 1)

def require (wanted : Kind) (d : Datum) : Except Fault Datum :=
  if d.isOf wanted then .ok d
  else .error (v.failed ("expected " ++ wanted.name ++ ", got " ++ d.described))

def truth (d : Datum) : Except Fault Bool := do
  match ← v.require .boolean d with
  | .truth b => return b
  | _ => throw .mismatch

def number (d : Datum) : Except Fault Quantity := do
  match (← v.require .number d).quantity? with
  | some q => return q
  | none => throw .mismatch

def equal (a b : Datum) : Except Fault Bool := (a.equal b).mapError .decimal

def order? : Datum → Datum → Except Fault (Option Ordering)
  | .date a, .date b => .ok (some (compare a.day b.day))
  | .moment a, .moment b =>
      match a.offset, b.offset with
      | none, none => .ok (some (Moment.order a b))
      | some _, some _ => .ok (some (Moment.order a b))
      | _, _ => .error .mismatch
  | a, b =>
      match a.quantity?, b.quantity? with
      | some x, some y => .ok (x.order? y)
      | _, _ =>
          match a.asText?, b.asText? with
          | some s, some t =>
              .ok (some (if s.before t then .lt else if s = t then .eq else .gt))
          | _, _ => .error .mismatch

def holds (op : Comparison) (o : Option Ordering) : Bool :=
  match op with
  | .lt => o == some .lt
  | .le => o == some .lt || o == some .eq
  | .gt => o == some .gt
  | .ge => o == some .gt || o == some .eq
  | .eq => o == some .eq
  | .ne => o != some .eq

def ordered (op : Comparison) (a b : Datum) : Except Fault Datum :=
  if a.kind?.isSome && a.kind? = b.kind? && a.kind? ≠ some .boolean then do
    let o ← order? a b
    return .truth (holds op o)
  else .error (v.failed ("cannot order " ++ a.described ++ " and " ++ b.described))

def compared (op : Comparison) (a b : Datum) : Except Fault Datum :=
  match op with
  | .eq => (equal a b).map .truth
  | .ne => (equal a b).map (fun r => .truth (!r))
  | op => v.ordered op a b

def quotient (op : Arithmetic) (a b : Quantity) : Except Fault Quantity :=
  match op with
  | .add => Library.lift (a.add b)
  | .sub => Library.lift (a.sub b)
  | .mul => Library.lift (a.mul b)
  | .div => if b.isZero then .error (v.failed "division by zero") else Library.lift (a.div b)
  | .mod => if b.isZero then .error (v.failed "modulo by zero") else Library.lift (a.mod b)

def finite (symbol : String) (q : Quantity) : Except Fault Datum := do
  let x ← Library.lift q.toFloat
  if x.isFinite then return .double x
  else throw (v.failed ("'" ++ symbol ++ "' produced a non-finite result"))

def computed (op : Arithmetic) (a b : Datum) : Except Fault Datum :=
  match op, a.asText?, b.asText? with
  | .add, some s, some t => .ok (.text (s ++ t))
  | _, _, _ => do
      let x ← v.number a
      let y ← v.number b
      let r ← v.quotient op x y
      v.finite op.symbol r

def combined (op : BinaryOperator) (a b : Datum) : Except Fault Datum :=
  match op with
  | .comparison op => v.compared op a b
  | .arithmetic op => v.computed op a b
  | other => do
      let _ ← v.number a
      let _ ← v.number b
      throw (v.failed ("unsupported operator " ++ Text.quoted other.symbol))

def lookup (name : Text) : Except Fault Datum :=
  match v.environment name with
  | some d => .ok d
  | none => .error (v.failed ("undefined variable " ++ Text.quoted name))

def function (name : Text) : Except Fault Function :=
  match name.string?.bind v.registry.find? with
  | some f => .ok f
  | none => .error (v.failed ("undefined function " ++ Text.quoted name))

mutual

def eval : Tree → Steps Datum
  | .literal d _ => do
      v.step
      return d
  | .reference name _ => do
      v.step
      v.lookup name
  | .unary op e _ => do
      v.step
      match op with
      | .not =>
          let b ← v.truth (← eval e)
          return .truth (!b)
      | .negate =>
          let q ← v.number (← eval e)
          return .ofQuantity q.negate
      | .plus =>
          let q ← v.number (← eval e)
          return .ofQuantity q
      | .unknown _ => throw (v.failed "unsupported node UnaryOp")
  | .binary op l r _ => do
      v.step
      match op with
      | .and =>
          if ← v.truth (← eval l) then return .truth (← v.truth (← eval r))
          else return .truth false
      | .or =>
          if ← v.truth (← eval l) then return .truth true
          else return .truth (← v.truth (← eval r))
      | op =>
          let a ← eval l
          let b ← eval r
          v.combined op a b
  | .call name args _ => do
      v.step
      let f ← v.function name
      let values ← evalAll args
      f.invoke values v.source

def evalAll : List Tree → Steps (List Datum)
  | [] => return []
  | e :: es => do
      let first ← eval e
      let rest ← evalAll es
      return first :: rest

end

end Evaluation

def defaultStepLimit : Int := 10000

namespace Program

variable (p : Program)

def run (environment : Environment) (limit : Int := defaultStepLimit) : Except Fault Datum :=
  (Evaluation.eval ⟨p.source, p.registry, environment, limit⟩ p.root 0).map Prod.fst

def numeric (d : Datum) : Except Fault Float :=
  match d.quantity? with
  | none => .error (.formula (.notNumeric p.source d.described))
  | some q => do
      let x ← Library.lift q.toFloat
      if x.isFinite then return x
      else throw (.formula (.failed p.source "result is not a finite number"))

def runNumeric (environment : Environment) (limit : Int := defaultStepLimit) :
    Except Fault Float := do
  p.numeric (← p.run environment limit)

end Program

/-- The shortest decimal that stands for a double. -/
def toMoney (x : Float) : Decimal := .ofFloat x

end Appraisal.Formula
