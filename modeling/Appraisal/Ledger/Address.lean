import Appraisal.Datum.Conversion
import Appraisal.Ledger.Store
import Appraisal.Text.Bytes
import Appraisal.Text.Identifier

/-!
# Addresses of ledgers

A ledger is found by an address: a scheme, which names the kind of database and may name a driver, a
user with a password, a host with a socket, a place, and options behind a question mark. Only databases
in files need no driver, and their addresses have neither a user nor a host.
-/

namespace Appraisal

structure LedgerAddress where
  scheme : String
  user : Option Text := none
  password : Option Text := none
  host : Option Text := none
  socket : Option Text := none
  place : Option Text := none
  options : List (Text × List Text) := []
  deriving DecidableEq, Repr

inductive AddressError
  | unreadable
  | noSocketNumber
  | refused (why : Refusal)
  /-- A scheme with more than one plus sign. -/
  | overlongScheme
  | unknownExtension (name : Text)
  | unknownScheme (scheme : String)
  | noDriver (driver : String)
  /-- A file that is on a host or has a user. -/
  | notLocal (shown : Text)
  deriving DecidableEq, Repr

namespace AddressError

def message : AddressError → Text
  | unreadable => "Could not parse SQLAlchemy URL from given URL string"
  | noSocketNumber => "Port argument must be an integer or None"
  | refused why => why.message
  | overlongScheme => "too many values to unpack (expected 2)"
  | unknownExtension name => "Can't load plugin: sqlalchemy.plugins:" ++ name
  | unknownScheme scheme => "Can't load plugin: sqlalchemy.dialects:" ++ scheme
  | noDriver driver => "No module named " ++ Text.quoted driver
  | notLocal shown =>
      "Invalid SQLite URL: " ++ shown ++
        "\nValid SQLite URL forms are:\n sqlite:///:memory: (or, sqlite://)\n" ++
        " sqlite:///relative/path/to/file.db\n sqlite:////absolute/path/to/file.db"

end AddressError

namespace LedgerAddress

/-! ### Characters that percent signs write -/

def bytes : List Char → List Nat
  | '%' :: a :: b :: s =>
      match Text.hexValue? a, Text.hexValue? b with
      | some high, some low => (16 * high + low) :: bytes s
      | _, _ => 0x25 :: bytes (a :: b :: s)
  | c :: s => c.toNat :: bytes s
  | [] => []

/-- The letters of a text in which percent signs write bytes. `run` holds the ASCII characters that
stand before the rest, the last one first. -/
def decodedFrom (run : List Char) : List Letter → List Letter
  | [] => written run
  | .char c :: s =>
      if c.toNat < 0x80 then decodedFrom (c :: run) s else written run ++ .char c :: decodedFrom [] s
  | l :: s => written run ++ l :: decodedFrom [] s
where
  written (run : List Char) : List Letter := (Text.characters (bytes run.reverse)).map .char

def decoded (s : List Letter) : Text := .ofList (decodedFrom [] s)

def isUnreserved (c : Char) : Bool :=
  c.isAlphanum || c = '_' || c = '.' || c = '-' || c = '~'

/-- A text with bytes behind percent signs, but for the characters that are safe. A surrogate has no
bytes. -/
def encoded (safe : List Char) (t : Text) : Except AddressError (List Char) :=
  match Text.chars? t.toList with
  | none => .error (.refused (.unencodable t))
  | some s =>
      .ok (s.flatMap (fun c =>
        if isUnreserved c || safe.contains c then [c]
        else (String.utf8EncodeChar c).flatMap (fun b =>
          '%' :: (Text.hex 2 b.toNat).map Char.toUpper)))

def encodedOption (t : Text) : Except AddressError Text := do
  let s ← encoded [' '] t
  return String.ofList (s.map (fun c => if c = ' ' then '+' else c))

/-! ### Reading -/

def splitLast? (l : Letter) (s : List Letter) : Option (List Letter × List Letter) :=
  let behind := (s.reverse.takeWhile (· != l)).reverse
  if behind.length < s.length then
    some (s.take (s.length - behind.length - 1), behind)
  else none

def userAndRest (s : List Letter) :
    Option (List Letter) × Option (List Letter) × List Letter :=
  let user := s.takeWhile (fun l => l != .char ':' && l != .char '/')
  let rest := s.drop user.length
  let secret := (rest.drop 1).takeWhile (fun l => l != .char '@')
  let behind := rest.drop (1 + secret.length)
  if rest.head? = some (.char ':') && !behind.isEmpty then (some user, some secret, behind.drop 1)
  else
    match splitLast? '@' user with
    | some (user, host) => (some user, none, host ++ rest)
    | none => (none, none, s)

/-- The host, and what follows it. A host may stand in brackets. -/
def hostAndRest (s : List Letter) : Option (List Letter) × List Letter :=
  let bracketed :=
    if s.head? = some (.char '[') then
      splitLast? ']' ((s.drop 1).takeWhile (fun l => l != .char '/' && l != .char '?'))
    else none
  match bracketed with
  | some (host, _) =>
      if host.isEmpty then plainHost s else (some host, s.drop (host.length + 2))
  | none => plainHost s
where
  plainHost (s : List Letter) : Option (List Letter) × List Letter :=
    let host := s.takeWhile (fun l => l != .char '/' && l != .char ':' && l != .char '?')
    if host.isEmpty then (none, s) else (some host, s.drop host.length)

def part (mark : Letter) (ends : Letter → Bool) (s : List Letter) :
    Option (List Letter) × List Letter :=
  match s with
  | l :: rest =>
      if l = mark then (some (rest.takeWhile (!ends ·)), rest.dropWhile (!ends ·)) else (none, s)
  | [] => (none, [])

def addOption (options : List (Text × List Text)) (name value : Text) : List (Text × List Text) :=
  if options.any (fun o => o.1 = name) then
    options.map (fun o => if o.1 = name then (o.1, o.2 ++ [value]) else o)
  else options ++ [(name, [value])]

def optionsOf (t : Text) : List (Text × List Text) :=
  let plain (t : Text) : Text :=
    decoded (t.toList.map (Letter.mapChar (fun c => if c = '+' then ' ' else c)))
  (t.parts '&').foldl (fun options item =>
    match item.parts '=' with
    | name :: value :: more =>
        let value := Text.intercalate "=" (value :: more)
        if value.isEmpty then options else addOption options (plain name) (plain value)
    | _ => options) []

/-- Reads an address. What cannot belong to it is left out. -/
def read? (text : Text) : Option LedgerAddress :=
  let s := text.toList
  let scheme := s.takeWhile (Letter.isOf (fun c => Text.isNameChar c || c = '+'))
  let rest := s.drop scheme.length
  if scheme.isEmpty || !Text.startsWith (.ofList rest) "://" then none
  else
    let (user, password, rest) := userAndRest (rest.drop 3)
    let (host, rest) := hostAndRest rest
    let (socket, rest) := part ':' (fun l => l = '/' || l = '?') rest
    let (place, rest) := part '/' (fun l => l = '?') rest
    let (options, _) := part '?' (fun l => l = '\n') rest
    some
      { scheme := String.ofList (scheme.filterMap Letter.char?)
        user := user.map decoded
        password := password.map decoded
        host := host.map .ofList
        socket := socket.map .ofList
        place := place.map .ofList
        options := (options.map (optionsOf ∘ .ofList)).getD [] }

def shownUser (a : LedgerAddress) : Except AddressError Text :=
  match a.user with
  | none => .ok ""
  | some user => do
      let user ← encoded [' ', '+'] user
      return String.ofList user ++ (if a.password.isSome then ":***" else "") ++ "@"

/-- An address as messages show it, without the password. -/
def shown (a : LedgerAddress) (socket : Option Int) : Except AddressError Text := do
  let user ← a.shownUser
  let host : Text :=
    match a.host with
    | none => ""
    | some host => if host.toList.contains ':' then "[" ++ host ++ "]" else host
  let options ← (sorted (fun x y => Text.before x.1 y.1) a.options).mapM (fun o =>
    o.2.mapM (fun value => do return (← encodedOption o.1) ++ "=" ++ (← encodedOption value)))
  let options : Text :=
    if options.flatten.isEmpty then "" else "?" ++ Text.intercalate "&" options.flatten
  let place : Text := match a.place with | none => "" | some place => "/" ++ place
  return a.scheme ++ "://" ++ user ++ host ++ (socket.map (fun n => ":" ++ intText n)).getD "" ++
    place ++ options

/-! ### Databases -/

/-- The kinds of databases with their drivers: the name of a driver in a scheme, none for the usual
one, and the module that it needs, none if it needs none. -/
def drivers : List (String × List (Option String × Option String)) :=
  [("sqlite", [(none, none), (some "base", none), (some "pysqlite", none),
      (some "aiosqlite", some "aiosqlite"), (some "pysqlcipher", some "pysqlcipher3")]),
   ("postgresql", [(none, some "psycopg2"), (some "base", some "psycopg2"),
      (some "psycopg2", some "psycopg2"), (some "psycopg2cffi", some "psycopg2cffi"),
      (some "psycopg", some "psycopg"), (some "psycopg_async", some "psycopg"),
      (some "asyncpg", some "asyncpg"), (some "pg8000", some "pg8000")]),
   ("oracle", [(none, some "cx_Oracle"), (some "base", some "cx_Oracle"),
      (some "cx_oracle", some "cx_Oracle"), (some "oracledb", some "oracledb")]),
   ("mssql", [(none, some "pyodbc"), (some "base", some "pyodbc"), (some "pyodbc", some "pyodbc"),
      (some "pymssql", some "pymssql"), (some "aioodbc", some "aioodbc")])] ++
  ["mysql", "mariadb"].map (fun name => (name,
    [(none, some "MySQLdb"), (some "base", some "MySQLdb"), (some "mysqldb", some "MySQLdb"),
     (some "pymysql", some "pymysql"), (some "mysqlconnector", some "mysql"),
     (some "mariadbconnector", some "mariadb"), (some "cymysql", some "cymysql"),
     (some "pyodbc", some "pyodbc"), (some "aiomysql", some "aiomysql"),
     (some "asyncmy", some "asyncmy")]))

def driver (scheme : String) : Except AddressError (Option String) :=
  let unknown : AddressError := .unknownScheme (".".intercalate (scheme.splitOn "+"))
  let find (kind : String) (driver : Option String) : Except AddressError (Option String) :=
    let known := ((drivers.find? (fun d => d.1 = kind)).map Prod.snd).getD []
    match known.find? (fun d => d.1 = driver) with
    | some (_, needed) => .ok needed
    | none => .error unknown
  match scheme.splitOn "+" with
  | [kind] => find kind none
  | [kind, driver] => find kind (some driver)
  | _ => .error .overlongScheme

def socketNumber (a : LedgerAddress) : Except AddressError (Option Int) :=
  match a.socket with
  | none => .ok none
  | some s =>
      if s.isEmpty then .error .noSocketNumber
      else ((Datum.wholeOfText s).map some).mapError .refused

/-! ### Options of files -/

inductive OptionForm
  | truth
  | double
  | whole
  deriving DecidableEq, Repr

def fileOptions : List (String × OptionForm) :=
  [("uri", .truth), ("timeout", .double), ("detect_types", .whole), ("check_same_thread", .truth),
   ("cached_statements", .whole)]

def truthWords : List Text :=
  ["true", "yes", "on", "y", "t", "1", "false", "no", "off", "n", "f", "0"]

def checkForm (form : OptionForm) (value : Text) : Except AddressError Unit :=
  match form with
  | .truth =>
      let word := Text.ofList (value.trim.toList.map (Letter.mapChar Char.toLower))
      if truthWords.contains word then .ok ()
      else .error (.refused (.stated .value ("String is not true/false: " ++ Text.quoted word)))
  | .double =>
      match readFloat? value with
      | some _ => .ok ()
      | none => .error (.refused (.notNumeric value))
  | .whole => ((Datum.wholeOfText value).map (fun _ => ())).mapError .refused

def checkOptions (a : LedgerAddress) : Except AddressError Unit :=
  fileOptions.forM (fun o =>
    match a.options.lookup (o.1 : Text) with
    | some [value] => checkForm o.2 value
    | _ => .ok ())

def filePlace (a : LedgerAddress) : Except AddressError Text := do
  let socket ← a.socketNumber
  match (a.options.lookup ("plugin" : Text)).getD [] with
  | name :: _ => throw (.unknownExtension name)
  | [] =>
      match ← driver a.scheme with
      | some needed => throw (.noDriver needed)
      | none =>
          let isGiven (t : Option Text) : Bool := !(t.getD "").isEmpty
          if isGiven a.user || isGiven a.host || isGiven a.password || socket.getD 0 != 0 then
            throw (.notLocal (← a.shown socket))
          a.checkOptions
          return a.place.getD ""

def placeOf (text : Text) : Except AddressError Text :=
  match read? text with
  | some a => a.filePlace
  | none => .error .unreadable

def connect (ledgers : Text → LedgerStore) (address : Text) :
    Except Text (Text → Journaled LedgerError (List Posting)) :=
  match placeOf address with
  | .ok place => .ok (ledgers place).select
  | .error e => .error e.message

end LedgerAddress

end Appraisal
