import Appraisal.Formula.Context
import Appraisal.Formula.Library

/-!
# Reference

What an editor can offer to someone who writes a formula: the variables, the functions of a registry
and some formulas to start from.
-/

namespace Appraisal.Formula

structure FunctionDoc where
  name : String
  signature : String
  description : Text
  sample : Text

structure Snippet where
  label : String
  formula : String
  description : String

def snippets : List Snippet :=
  [⟨"Simple Interest Formula",
    "amount + simple_interest(amount, parse_note_float(note, \"Rate:\"), days_held)",
    "Calculates simple interest based on rate from note"⟩,
   ⟨"Compound Interest Formula",
    "compound_interest(amount, parse_note_float(note, \"Rate:\"), days_held, 12)",
    "Monthly compounding interest based on rate from note"⟩,
   ⟨"P2P Loan Interest",
    "amount + (amount * parse_note_float(note, \"Int:\") / 100 / 365 * days_held)",
    "Annual interest rate from note, calculated daily"⟩,
   ⟨"Tiered Interest",
    "if_else(days_held > 365,\n" ++
      "  amount + simple_interest(amount, 12, days_held),\n" ++
      "  amount + simple_interest(amount, 10, days_held)\n" ++
      ")",
    "Higher rate after 1 year"⟩]

structure Reference where
  names : List VariableDoc
  functions : List FunctionDoc
  snippets : List Snippet

def Reference.ofRegistry (r : Registry) : Reference where
  names := variableDocs
  functions := r.functions.map (fun f => ⟨f.name, f.signature, f.doc, f.sample⟩)
  snippets := Formula.snippets

namespace Reference

def variableDatum (v : VariableDoc) : Datum :=
  .object [("name", .text v.name), ("type", .text v.kind.name), ("description", .text v.description)]

def functionDatum (f : FunctionDoc) : Datum :=
  .object
    [("name", .text f.name), ("signature", .text f.signature),
     ("description", .text f.description), ("example", .text f.sample)]

def snippetDatum (s : Snippet) : Datum :=
  .object
    [("label", .text s.label), ("formula", .text s.formula), ("description", .text s.description)]

def payload (r : Reference) : Datum :=
  .object
    [("variables", .list (r.names.map variableDatum)),
     ("functions", .list (r.functions.map functionDatum)),
     ("snippets", .list (r.snippets.map snippetDatum))]

end Reference

end Appraisal.Formula
