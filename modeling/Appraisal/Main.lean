import Appraisal.Command.Run
import Appraisal.Ledger.Address
import Appraisal.Ledger.Document
import Appraisal.Yaml.Value
import Std.Time.DateTime.Timestamp

/-!
# The program

Runs a command on the files and the clock of the machine. Configurations are documents in YAML, and a
ledger is a file with a list of postings.
-/

namespace Appraisal.Program

def pathError : IO.Error → PathError
  | .inappropriateType _ code _ => if code = 20 then .notDirectory else .isDirectory
  | .invalidArgument _ 36 _ => .nameTooLong
  | _ => .missing

/-- The content of a file, or why it cannot be read. No file is at a path that is no string. -/
def contentOf (path : Text) : IO (Except FileError String) := do
  match FilePath.check path, path.string? with
  | .error e, _ => return .error e
  | .ok (), none => return .error (.system .missing path)
  | .ok (), some name =>
      try
        return .ok (← IO.FS.readFile name)
      catch e =>
        return .error (.system (pathError e) path)

def currentMoment : IO Moment := do
  let stamp ← Std.Time.Timestamp.now
  let micros := stamp.toNanosecondsSinceUnixEpoch.toInt.fdiv 1000
  match Moment.epoch.plus micros with
  | .ok t => return t
  | .error _ => return Moment.epoch

def filesOf (args : List Text) : List Text :=
  match Command.readCommand Command.commands args with
  | .error _ => []
  | .ok (command, given) =>
      let configuration :=
        if command.options.contains Command.configOption then [Command.configPath given] else []
      let ledgers :=
        if command.name = Command.loansCommand.name then
          (LedgerAddress.placeOf (given.text "--db-url" Command.defaultLedger)).toOption.toList
        else []
      configuration ++ ledgers

/-- What a command sees, once the files that it reads are read. -/
def surroundings (args : List Text) : IO Command.Surroundings := do
  let contents ← (filesOf args).mapM (fun path => do
    let content ← contentOf path
    return (path, content))
  let now ← currentMoment
  let content (path : Text) : Except FileError String :=
    match contents.find? (fun c => c.1 = path) with
    | some (_, content) => content
    | none => .error (.system .missing path)
  return { read := Yaml.reader
           file := content
           connect := LedgerAddress.connect (fun place =>
             LedgerDocument.ledger (content place).toOption)
           now := now }

/-- A text for a terminal, with a mark for what has no bytes. -/
def printed (t : Text) : String :=
  String.ofList (t.toList.map (fun l => l.char?.getD '\uFFFD'))

end Appraisal.Program

def main (args : List String) : IO UInt32 := do
  let args := args.map Appraisal.Text.ofString
  let world ← Appraisal.Program.surroundings args
  match Appraisal.Command.run world args with
  | .error stop =>
      let usage := "\n".intercalate (Appraisal.Command.commands.map (·.usage))
      if stop = .help then IO.println usage else IO.eprintln usage
      return UInt32.ofNat stop.code
  | .ok outcome =>
      IO.print (Appraisal.Program.printed outcome.output)
      IO.eprint (Appraisal.Program.printed outcome.errors)
      return UInt32.ofNat outcome.code
