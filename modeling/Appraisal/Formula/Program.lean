import Appraisal.Formula.Context
import Appraisal.Formula.Library
import Appraisal.Formula.Lowering
import Appraisal.Formula.Parser

/-!
# Programs

A formula text that has been read, typed and found small enough. The text is trimmed before it is
read; messages show it as it was given.
-/

namespace Appraisal.Formula

structure Program where
  source : Text
  root : Tree
  registry : Registry

namespace Program

def kind (p : Program) : Kind := p.root.kind

def count (p : Program) : Nat := p.root.count

end Program

def lengthLimit : Nat := 4096

/-- The levels that a formula may be nested in before it is typed, and after. -/
def readingDepth : Nat := 2950

def typingDepth : Nat := 480

def defaultNodeLimit : Int := 256

def parseDetail : String := "<parse error>"

/-- The expression of a trimmed text. Surrogates and NUL characters stand in none. -/
def read (source text : Text) : Except FormulaError Surface :=
  let refuse (detail : String) : Except FormulaError Surface := .error (.malformed source detail 0)
  if text.isEmpty then refuse "formula is empty"
  else if lengthLimit < text.length then
    refuse ("formula is longer than " ++ intText lengthLimit ++ " characters")
  else
    match (Text.chars? text.toList).filter (!·.contains '\x00') with
    | none => refuse ("cannot parse formula: " ++ parseDetail)
    | some s =>
        match Surface.parse? s with
        | none => refuse parseDetail
        | some e =>
            if readingDepth < e.depth then refuse ("cannot parse formula: " ++ parseDetail) else .ok e

/-- Compiles a formula. The size is checked before typing on the expression and after it on the
tree. -/
def compile (source : Text) (schema : Schema := postingSchema)
    (registry : Registry := Library.registry) (limit : Int := defaultNodeLimit) :
    Except FormulaError Program := do
  let e ← read source source.trim
  if limit < e.size then throw (.tooComplex source e.size limit)
  let root ← Scope.lower ⟨source, schema, registry⟩ (e.pruned typingDepth)
  if limit < root.count then throw (.tooComplex source root.count limit)
  return ⟨source, root, registry⟩

def compileDatum (source : Datum) (schema : Schema := postingSchema)
    (registry : Registry := Library.registry) (limit : Int := defaultNodeLimit) :
    Except FormulaError Program :=
  match source with
  | .text s => compile s schema registry limit
  | other => .error (.malformed other.shown "formula must be a string" 0)

end Appraisal.Formula
