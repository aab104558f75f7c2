import Appraisal.File.Error
import Appraisal.Valuation.Document
import Appraisal.Valuation.Validation

/-!
# The active configuration

A store holds the configuration in use. A configuration is replaced as a whole: another one is put in
its place, or one that a file holds, when it has been read and validated. What work at a store has put
into it stays there, also when the work fails afterwards.
-/

namespace Appraisal

inductive ConfigurationError
  | file (e : FileError)
  | malformed (m : Malformed)
  | document (e : DocumentError)
  | invalid (errors : List Text) (source : Text)
  | fault (f : Fault)

namespace ConfigurationError

def invalidMessage (errors : List Text) (source : Text) : Text :=
  "Valuation configuration invalid" ++ (if source = "" then ("" : Text) else " in " ++ source) ++ ":\n" ++
    Text.intercalate "\n" (errors.map (fun e => "  - " ++ e))

def invalidReport (errors : List Datum) (source : Datum) : Report :=
  ⟨"ValuationConfigError",
    some (invalidMessage (errors.map Datum.display) (if source.isGiven then source.display else "")),
    some "VALUATION_CONFIG_INVALID", [("errors", .list errors), ("source", source)]⟩

def report : ConfigurationError → Report
  | file e => e.report
  | malformed m => m.report
  | document e => e.report
  | invalid errors source => invalidReport (errors.map .text) (.text source)
  | fault f => f.report

/-- The message of an error, also where its wording is not fixed. -/
def message : ConfigurationError → Text
  | malformed m => m.message
  | e => e.report.message.getD ""

end ConfigurationError

namespace Configuration

open Journaled

def logger : String := "config"

def ofContent (read : DocumentReader) (path : Text) (content : Except FileError String) :
    Except ConfigurationError Configuration := do
  let text ← content.mapError .file
  let d ← (read path text).mapError .malformed
  (Document.ofDatum path d).mapError .document

def recordWarnings (source : Text) : List Text → Journaled ConfigurationError Unit
  | [] => return ()
  | w :: ws => do
      note Journal.warningLevel logger "valuation_config_warning"
        [("source", .text source), ("warning", .text w)]
      recordWarnings source ws

def traceType : String := "VALUATION_CONFIG_TRACE"

def load (read : DocumentReader) (path : Text) (content : Except FileError String) :
    Journaled ConfigurationError Configuration := do
  let c ← lift (ofContent read path content)
  let v ← mapFault ConfigurationError.fault (Validation.ofConfiguration c)
  recordWarnings c.source v.warnings
  if v.isValid then
    note Journal.infoLevel logger traceType
      [("trace_type", .text traceType), ("checksum", .text c.checksum),
       ("rule_count", .whole c.rules.length), ("default_currency", .text c.currency),
       ("source", .text c.source)]
    return c
  else throw (.invalid v.errors c.source)

end Configuration

structure ConfigurationStore where
  current : Configuration

def ConfigurationStore.empty : ConfigurationStore := ⟨.empty⟩

/-- Work at a store, which writes a journal and can fail. -/
abbrev StoreWork (ε : Type) := ExceptT ε (StateT ConfigurationStore (StateM JournalState))

namespace StoreWork

variable {ε δ α : Type}

def ofJournaled (x : Journaled ε α) : StoreWork ε α :=
  ExceptT.mk (fun s j =>
    let (r, j) := x.run j
    ((r, s), j))

/-- The outcome of work as a value. The store stays as the work has left it. -/
def outcome (x : StoreWork ε α) : StoreWork δ (Except ε α) :=
  ExceptT.mk (fun s j =>
    let ((r, s), j) := x.run s j
    ((.ok r, s), j))

def current : StoreWork ε Configuration :=
  return (← get).current

def rules : StoreWork ε (List Rule) :=
  return (← get).current.rules

def currency : StoreWork ε Text :=
  return (← get).current.currency

def install (c : Configuration) : StoreWork ε Unit :=
  set (⟨c⟩ : ConfigurationStore)

def note (message : Text) (fields : List (Text × Datum)) : StoreWork ε Unit :=
  ofJournaled (Journaled.note Journal.infoLevel Configuration.logger message fields)

/-- Installs a configuration and hands back the one whose place it takes. -/
def replace (c : Configuration) : StoreWork ε Configuration := do
  let previous ← current
  install c
  note "valuation_config_replaced"
    [("previous_checksum", .text previous.checksum), ("checksum", .text c.checksum),
     ("rule_count", .whole c.rules.length)]
  return previous

def reload (read : DocumentReader) (path : Text) (content : Except FileError String) :
    StoreWork ConfigurationError Configuration := do
  let c ← ofJournaled (Configuration.load read path content)
  let previous ← current
  install c
  note "valuation_config_reloaded"
    [("source", .text c.source), ("previous_checksum", .text previous.checksum),
     ("checksum", .text c.checksum)]
  return c

end StoreWork

end Appraisal
