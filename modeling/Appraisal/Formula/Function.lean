import Appraisal.Fault
import Appraisal.Datum.Display
import Appraisal.Formula.Kind
import Appraisal.Text.Identifier

/-!
# Functions that formulas can call

A function is declared with the kinds of its parameters and of its result, how many of its parameters
must be given, and values for the others. A declaration is checked once; what it promises is then part
of the type. A call checks its arguments and the result again, so that no implementation can give
back a value of another kind.
-/

namespace Appraisal.Formula

/-! ### Implementations -/

/-- What an implementation says of its own parameters. -/
structure Shape where
  /-- The parameters that are filled by position. -/
  positional : List String
  /-- How many of the last of them may be left out. -/
  optional : Nat
  /-- Are further arguments taken? -/
  isOpen : Bool
  /-- The parameters that are filled by name only. -/
  named : List String

namespace Shape

def fixed (names : List String) : Shape := ⟨names, 0, false, []⟩

def missing (name : String) : String :=
  "missing a required argument: " ++ Text.quoted name

def objection? (s : Shape) (count : Nat) : Option String :=
  if s.positional.length < count && !s.isOpen then some "too many positional arguments"
  else
    match (s.positional.take (s.positional.length - s.optional)).drop count with
    | name :: _ => some (missing name)
    | [] => s.named.head?.map missing

end Shape

structure Implementation where
  /-- None for an implementation that says nothing of its parameters. -/
  shape : Option Shape
  run : List Datum → Except Fault Datum

namespace Implementation

def objection? (i : Implementation) (count : Nat) : Option String :=
  i.shape.bind (fun s => s.objection? count)

end Implementation

/-! ### Declarations -/

inductive RegistrationFault
  | notIdentifier
  | unknownParameter (given : String)
  | unknownResult (given : String)
  | requiredOutside (required : String) (count : Nat)
  /-- The number of required parameters is no whole number. -/
  | requiredUncounted
  | defaultCount (expected found : Nat)
  | defaultKind (given : String) (kind : Kind)
  | notCallable
  | unsuitable (count : Nat) (objection : String)
  | duplicate
  | notFunction
  | other (reason : String)
  deriving DecidableEq, Repr

namespace RegistrationFault

def message : RegistrationFault → String
  | notIdentifier => "name must be an identifier"
  | unknownParameter given => "unknown parameter type " ++ given
  | unknownResult given => "unknown return type " ++ given
  | requiredOutside required count => "required=" ++ required ++ " outside 0.." ++ intText count
  | requiredUncounted => ""
  | defaultCount expected found =>
      "expected " ++ intText expected ++ " default(s), got " ++ intText found
  | defaultKind given kind => "default " ++ given ++ " is not a " ++ kind.name
  | notCallable => "implementation is not callable"
  | unsuitable count objection =>
      "implementation does not accept " ++ intText count ++ " argument(s): " ++ objection
  | duplicate => "already registered"
  | notFunction => "not a FunctionSpec"
  | other reason => reason

end RegistrationFault

structure RegistrationError where
  function : Text
  fault : RegistrationFault
  deriving DecidableEq, Repr

namespace RegistrationError

/-- The report on a function and a reason, which may be data of any kind. -/
def reportOf (function reason : Datum) : Report where
  sort := "FunctionRegistrationError"
  message := some ("Cannot register function " ++ function.shown ++ ": " ++ reason.display)
  code := some "FUNCTION_REGISTRATION_ERROR"
  fields := [("function_name", function), ("reason", reason)]

def report (e : RegistrationError) : Report :=
  match e.fault with
  | .requiredUncounted => Fault.mismatch.report
  | fault => reportOf (.text e.function) (.text fault.message)

end RegistrationError

def fits : List Kind → List Datum → Bool
  | [], [] => true
  | k :: ks, d :: ds => d.isOf k && fits ks ds
  | _, _ => false

def misfit? (position : Nat) : List Kind → List Datum → Option (Nat × Kind × Datum)
  | k :: ks, d :: ds => if d.isOf k then misfit? (position + 1) ks ds else some (position, k, d)
  | _, _ => none

theorem fits_of_misfit? {ks : List Kind} {ds : List Datum} {position : Nat}
    (h : misfit? position ks ds = none) (hl : ds.length = ks.length) : fits ks ds = true := by
  induction ks generalizing ds position with
  | nil =>
      cases ds with
      | nil => rfl
      | cons d ds => simp at hl
  | cons k ks ih =>
      cases ds with
      | nil => simp at hl
      | cons d ds =>
          simp only [misfit?] at h
          split at h
          · rename_i hk
            simp only [fits, hk, Bool.true_and]
            exact ih h (by simpa using hl)
          · simp at h

theorem length_eq_of_fits {ks : List Kind} {ds : List Datum} (h : fits ks ds = true) :
    ds.length = ks.length := by
  induction ks generalizing ds with
  | nil =>
      cases ds with
      | nil => rfl
      | cons d ds => simp [fits] at h
  | cons k ks ih =>
      cases ds with
      | nil => simp [fits] at h
      | cons d ds =>
          simp only [fits, Bool.and_eq_true] at h
          simp [ih h.2]

structure Function where
  name : String
  params : List Kind
  returns : Kind
  impl : Implementation
  required : Nat
  /-- Was the number of required parameters given as a truth value? -/
  isTruth : Bool := false
  defaults : List Datum
  doc : Text
  sample : Text
  isName_name : Text.isName name.toList = true
  required_le : required ≤ params.length
  fits_defaults : fits (params.drop required) defaults = true
  suitable : impl.objection? params.length = none

/-- What is said of a function before it is checked. -/
structure Declaration where
  name : Datum
  params : List Datum
  returns : Datum
  /-- None for a value that cannot be called. -/
  impl : Option Implementation
  /-- Null if every parameter is required. -/
  required : Datum
  defaults : List Datum
  doc : Text
  sample : Text

namespace Declaration

/-- Kinds are handed over as the members of an enumeration. -/
def kindFamily : String := "ValueType"

def ofKind (k : Kind) : Datum := .member kindFamily k.name.toUpper k.name

def kind? : Datum → Option Kind
  | .member family _ value => if family = kindFamily then Kind.ofName? value else none
  | _ => none

def kinds (function : Text) : List Datum → Except RegistrationError (List Kind)
  | [] => .ok []
  | d :: ds =>
      match kind? d with
      | some k => (kinds function ds).map (k :: ·)
      | none => .error ⟨function, .unknownParameter d.shown⟩

def requiredOf (required : Datum) (count : Nat) : Except RegistrationFault Nat :=
  let within (n : Int) : Except RegistrationFault Nat :=
    if 0 ≤ n && n.toNat ≤ count then .ok n.toNat
    else .error (.requiredOutside required.shown count)
  match required with
  | .null => .ok count
  | .whole n => within n
  | .truth b => within b.toNat
  | .double x =>
      if 0 ≤ x && x ≤ Float.ofNat count then .error .requiredUncounted
      else .error (.requiredOutside required.shown count)
  | _ => .error .requiredUncounted

def checkNamed (d : Declaration) (name : String) : Except RegistrationError Function :=
  let refuse (fault : RegistrationFault) : Except RegistrationError Function := .error ⟨name, fault⟩
  if hn : Text.isName name.toList then
    match kinds name d.params with
    | .error e => .error e
    | .ok params =>
        match kind? d.returns with
        | none => refuse (.unknownResult d.returns.shown)
        | some returns =>
            match requiredOf d.required params.length with
            | .error fault => refuse fault
            | .ok required =>
                let optional := params.drop required
                if d.defaults.length ≠ optional.length then
                  refuse (.defaultCount optional.length d.defaults.length)
                else
                  match misfit? 1 optional d.defaults with
                  | some (_, k, v) => refuse (.defaultKind v.shown k)
                  | none =>
                      match d.impl with
                      | none => refuse .notCallable
                      | some impl =>
                          match ho : impl.objection? params.length with
                          | some objection => refuse (.unsuitable params.length objection)
                          | none =>
                              if h : required ≤ params.length ∧
                                  fits optional d.defaults = true then
                                .ok
                                  { name, params, returns, impl, required
                                    isTruth := d.required.isTruth, defaults := d.defaults
                                    doc := d.doc, sample := d.sample, isName_name := hn
                                    required_le := h.1, fits_defaults := h.2, suitable := ho }
                              else refuse (.defaultCount optional.length d.defaults.length)
  else refuse .notIdentifier

/-- The function that a declaration declares. Names are texts without surrogates. -/
def check (d : Declaration) : Except RegistrationError Function :=
  match d.name with
  | .text t =>
      match t.string? with
      | some name => d.checkNamed name
      | none => .error ⟨t, .notIdentifier⟩
  | other => .error ⟨other.display, .notIdentifier⟩

end Declaration

namespace Function

def minArgs (f : Function) : Nat := f.required

def maxArgs (f : Function) : Nat := f.params.length

def accepts (f : Function) (count : Nat) : Bool :=
  f.minArgs ≤ count && count ≤ f.maxArgs

/-- The least number of arguments in the form in which it was given. -/
def leastArgs (f : Function) : Datum :=
  if f.isTruth then .truth (f.minArgs = 1) else .whole f.minArgs

def arityText (f : Function) : String :=
  if f.minArgs = f.maxArgs then intText f.maxArgs
  else f.leastArgs.shown ++ " to " ++ intText f.maxArgs

def paramNames (f : Function) : List String :=
  let names := (f.impl.shape.map Shape.positional).getD []
  if names.length < f.params.length then
    (List.range f.params.length).map (fun i : Nat => "arg" ++ intText (i + 1))
  else names.take f.params.length

def paramText (f : Function) (index : Nat) (name : String) (kind : Kind) : String :=
  name ++ (if f.required ≤ index then "?" else "") ++ ": " ++ kind.name

def signature (f : Function) : String :=
  let params := List.zipWith (fun (i, n) k => f.paramText i n k)
    (List.zip (List.range f.paramNames.length) f.paramNames) f.params
  f.name ++ "(" ++ ", ".intercalate params ++ ") -> " ++ f.returns.name

/-- The values that a call passes on: its arguments, and the declared values of the parameters that
it leaves out. -/
def filled (f : Function) (args : List Datum) : List Datum :=
  args ++ f.defaults.drop (args.length - f.required)

def failed (formula detail : Text) : Fault := .formula (.failed formula detail)

/-- A whole result becomes a double where a number is declared. -/
def asDeclared (f : Function) (result : Datum) : Except Fault Datum :=
  match f.returns, result with
  | .number, .whole n =>
      match floatOfInt? n with
      | some x => .ok (.double x)
      | none => .error (.refusal (.quantity .wholeTooLarge))
  | _, d => .ok d

/-- A result of the declared kind that is finite if it is a number. -/
def checked (f : Function) (formula : Text) (result : Datum) : Except Fault Datum := do
  let result ← f.asDeclared result
  if !result.isOf f.returns then
    throw (failed formula
      (f.name ++ "() returned " ++ result.described ++ ", expected " ++ f.returns.name))
  match result with
  | .double x =>
      if x.isFinite then return result
      else throw (failed formula (f.name ++ "() produced a non-finite result"))
  | _ => return result

/-- Runs the implementation; an operation that it refuses is a failure of the call. What the system
refuses is not. -/
def perform (f : Function) (formula : Text) (values : List Datum) : Except Fault Datum :=
  match f.impl.run values with
  | .error (.refusal r) =>
      .error (if r.family = .system then .refusal r
        else failed formula (f.name ++ "(): " ++ r.message))
  | outcome => outcome

def invoke (f : Function) (args : List Datum) (formula : Text) : Except Fault Datum :=
  if f.accepts args.length then
    let values := f.filled args
    match misfit? 1 f.params values with
    | some (position, k, d) =>
        .error (failed formula
          (f.name ++ "() argument " ++ intText position ++ " must be a " ++ k.name ++ ", got " ++
            d.described))
    | none => (f.perform formula values).bind (f.checked formula)
  else
    .error (failed formula
      (f.name ++ "() takes " ++ f.arityText ++ " argument(s), got " ++ intText args.length))

end Function

end Appraisal.Formula
