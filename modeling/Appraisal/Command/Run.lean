import Appraisal.Command.Arguments
import Appraisal.Datum.Display
import Appraisal.Formula.Reference
import Appraisal.Ledger.Row
import Appraisal.Loan.Dashboard
import Appraisal.Valuation.Preview

/-!
# Commands

The four commands: validating a configuration, trying a formula, the reference of formulas and the
dashboard of a ledger. A command sees the files, the ledgers and the instant that it is given and
answers with a code and two texts: lines with banners between two rules, and labelled values in
columns. How documents are read and how ledgers are found is given to it, too.
-/

namespace Appraisal.Command

/-! ### Layout -/

def lineWidth : Nat := 80

def blanks (count : Nat) : Text := .ofList (List.replicate count ' ')

def padRight (width : Nat) (t : Text) : Text := t ++ blanks (width - t.length)

def padLeft (width : Nat) (t : Text) : Text := blanks (width - t.length) ++ t

def rule : Text := .ofList (List.replicate lineWidth '=')

def banner (title : Text) : List Text := ["", rule, "  " ++ title, rule]

def labelled (label value : Text) : Text := "  " ++ padRight 22 label ++ " " ++ value

def joinLines (lines : List Text) : Text :=
  .ofList (lines.flatMap (fun l : Text => (l ++ "\n").toList))

/-! ### Surroundings and outcomes -/

structure Surroundings where
  read : DocumentReader
  /-- The content of a file, or why it cannot be read. -/
  file : Text → Except FileError String
  /-- The postings for each pattern in the ledger at an address, or why there is no connection. -/
  connect : Text → Except Text (Text → Journaled LedgerError (List Posting))
  now : Moment

structure Outcome where
  code : Nat
  output : Text
  errors : Text

namespace Outcome

def failed (message : Text) : Outcome := ⟨1, "", "  ERROR: " ++ message ++ "\n"⟩

def ofReport (r : Report) : Outcome := failed (r.message.getD "")

def printed (ok : Bool) (lines : List Text) : Outcome := ⟨if ok then 0 else 1, joinLines lines, ""⟩

end Outcome

def configOption : OptionSpec := ⟨"--config", .text⟩
def jsonOption : OptionSpec := ⟨"--json", .flag⟩

def validateCommand : Signature := ⟨"validate", [configOption], false⟩

def previewCommand : Signature where
  name := "preview"
  options := [⟨"--amount", .number⟩, ⟨"--days-held", .number⟩, ⟨"--note", .text⟩,
    ⟨"--currency", .text⟩, jsonOption]
  takesOperand := true

def referenceCommand : Signature := ⟨"reference", [], false⟩

def loansCommand : Signature := ⟨"loans", [configOption, ⟨"--db-url", .text⟩, jsonOption], false⟩

def commands : List Signature := [validateCommand, previewCommand, referenceCommand, loansCommand]

def defaultConfig : Text := "valuations.yaml"

def defaultLedger : Text := "sqlite:///ledger.db"

def configPath (g : Given) : Text := FilePath.normal (g.text "--config" defaultConfig)

def prettyText (d : Datum) : String :=
  match Json.pretty d with
  | .ok s => s
  | .error _ => ""

/-! ### Validation -/

def validationLines (c : Configuration) (v : Validation) : List Text :=
  let ending : String := if v.isValid then "  OK" else "  " ++ intText v.errors.length ++ " error(s)"
  banner ("VALUATION RULES  " ++ c.source) ++
    [labelled "rules" (intText c.rules.length), labelled "default_currency" c.currency,
     labelled "checksum" (String.ofList (c.checksum.toList.take 16))] ++
    v.warnings.map (fun w : Text => "  WARNING: " ++ w) ++
    v.errors.map (fun e : Text => "  ERROR: " ++ e) ++ (["", ending] : List Text)

def runValidate (w : Surroundings) (g : Given) : Outcome :=
  let path := configPath g
  match Configuration.ofContent w.read path (w.file path) with
  | .error e => .failed e.message
  | .ok c =>
      match Journaled.result (Validation.ofConfiguration c) with
      | .error e => .ofReport e.report
      | .ok v => .printed v.isValid (validationLines c v)

/-! ### Previews -/

def previewLines (p : Preview) : List Text :=
  banner "FORMULA PREVIEW" ++ [labelled "formula" p.formula] ++
    (Preview.sampleData p.context).map (fun f => labelled f.1 f.2.display) ++
    match p.outcome with
    | .ok x => [labelled "result" (floatText x)]
    | .error message => ["", "  ERROR: " ++ message]

def previewBody (g : Given) : List (Datum × Datum) :=
  [(.text "formula", .text (g.operand.getD "")), (.text "amount", .double (g.number "--amount")),
   (.text "days_held", .double (g.number "--days-held")), (.text "note", .text (g.text "--note" ""))]

def previewCurrency (g : Given) : Text := g.text "--currency" Configuration.defaultCurrency

def runPreview (w : Surroundings) (g : Given) : Outcome :=
  match Journaled.result (Preview.answer (previewBody g) (.ok w.now) (previewCurrency g)) with
  | .error e => .ofReport e.report
  | .ok p =>
      .printed p.isOk (if g.isSet "--json" then [prettyText p.payload] else previewLines p)

/-! ### The reference -/

def runReference : Outcome :=
  .printed true [prettyText (Formula.Reference.ofRegistry Formula.Library.registry).payload]

/-! ### Loans -/

def loanLine (l : Loan) : Text :=
  "  " ++ padRight 9 l.status.name ++ " " ++ padRight 40 l.account ++ " " ++
    padLeft 14 l.principal.text ++ " -> " ++ padLeft 14 l.currentValue.text

def tallyLine (group key : Text) (t : Tally) : Text :=
  labelled (group ++ ":" ++ key) (intText t.count ++ " / " ++ t.amount.text)

def summaryLines (s : Summary) : List Text :=
  [labelled "accounts" (intText s.totalAccounts), labelled "total_lent" s.totalLent.text,
   labelled "total_value" s.totalValue.text, labelled "total_gain" s.totalGain.text] ++
    s.byStatus.map (fun e => tallyLine "status" e.1.name e.2) ++
    s.byRisk.map (fun e => tallyLine "risk" e.1 e.2)

def alertLine (a : Alert) : Text :=
  "  [" ++ a.kind.severity ++ "] " ++ a.account ++ ": " ++ a.message

def dashboardLines (d : Dashboard) : List Text :=
  banner "LOANS" ++ d.loans.map loanLine ++ banner "SUMMARY" ++ summaryLines d.summary ++
    if d.alerts.isEmpty then [] else banner "ALERTS" ++ d.alerts.map alertLine

def dashboardOf (w : Surroundings) (c : Configuration)
    (select : Text → Journaled LedgerError (List Posting)) : Except LedgerError Dashboard :=
  let store : ConfigurationStore := ⟨c⟩
  Journaled.result
    ((LoanService.setUp store).dashboard LedgerError.fault select store w.now.endOfDay)

def runLoans (w : Surroundings) (g : Given) : Outcome :=
  let path := configPath g
  match Journaled.result (Configuration.load w.read path (w.file path)) with
  | .error e => .failed e.message
  | .ok c =>
      match w.connect (g.text "--db-url" defaultLedger) with
      | .error message => .failed ("Cannot connect to database: " ++ message)
      | .ok select =>
          match dashboardOf w c select with
          | .error e => .ofReport e.report
          | .ok d =>
              .printed true (if g.isSet "--json" then [prettyText d.payload] else dashboardLines d)

/-- Runs a command, or says with which code reading it stopped. -/
def run (w : Surroundings) (args : List Text) : Except Stop Outcome := do
  let (command, given) ← readCommand commands args
  if command.name = validateCommand.name then return runValidate w given
  else if command.name = previewCommand.name then return runPreview w given
  else if command.name = loansCommand.name then return runLoans w given
  else return runReference

end Appraisal.Command
