import Appraisal.Fault

/-!
# Why a file cannot be read or written

The system refuses a path that leads nowhere, or to a directory, or through a file, or that has names
that are too long. A path with a NUL character, or with a character that has no bytes, does not even
get to it.
-/

namespace Appraisal

inductive PathError
  | missing
  | notDirectory
  | isDirectory
  | nameTooLong
  deriving DecidableEq, Repr

namespace PathError

def number : PathError → Nat
  | missing => 2
  | notDirectory => 20
  | isDirectory => 21
  | nameTooLong => 36

def words : PathError → String
  | missing => "No such file or directory"
  | notDirectory => "Not a directory"
  | isDirectory => "Is a directory"
  | nameTooLong => "File name too long"

def sort : PathError → String
  | missing => "FileNotFoundError"
  | notDirectory => "NotADirectoryError"
  | isDirectory => "IsADirectoryError"
  | nameTooLong => "OSError"

end PathError

inductive FileError
  | system (why : PathError) (path : Text)
  | refused (why : Refusal)
  deriving DecidableEq, Repr

namespace FileError

def report : FileError → Report
  | system why path =>
      .plain why.sort
        ("[Errno " ++ intText why.number ++ "] " ++ why.words ++ ": " ++ Text.quoted path)
  | refused why => why.report

end FileError

/-! ### Paths -/

namespace FilePath

/-- Does a surrogate stand for a byte of a file name that is no text? -/
def isLoneByte (l : Letter) : Bool :=
  l.isSurrogate && 0xDC80 ≤ l.code && l.code ≤ 0xDCFF

/-- A path without the surrogates that stand for bytes, up to the first other one of a run. -/
def withoutBytes (behindOther : Bool) : List Letter → List Letter
  | [] => []
  | l :: s =>
      if !l.isSurrogate then l :: withoutBytes false s
      else if isLoneByte l && !behindOther then '?' :: withoutBytes false s
      else l :: withoutBytes true s

/-- The bytes of a path. A surrogate stands for one byte. -/
def byteLength (t : Text) : Nat :=
  t.toList.foldl (fun n l => n + match l with | .char c => c.utf8Size | .surrogate _ => 1) 0

/-- The longest path and the longest name in one, in bytes. -/
def longestPath : Nat := 4095
def longestName : Nat := 255

def names (path : Text) : List Text :=
  (path.parts '/').filter (fun p => p ≠ "" && p ≠ ".")

/-- What does not depend on the files that there are. -/
def check (path : Text) : Except FileError Unit :=
  let rest := Text.ofList (withoutBytes false path.toList)
  if rest.toList.any Letter.isSurrogate then .error (.refused (.unencodable rest))
  else if path.toList.contains '\x00' then
    .error (.refused (.stated .value "embedded null byte"))
  else if longestPath < byteLength path then .error (.system .nameTooLong path)
  else .ok ()

/-- A path without what says nothing in it. Two slashes at the start differ from one. -/
def normal (path : Text) : Text :=
  let slashes := (path.toList.takeWhile (fun l : Letter => l = '/')).length
  let joined := Text.intercalate "/" (names path)
  if slashes = 2 then "//" ++ joined
  else if 0 < slashes then "/" ++ joined
  else if joined = "" then "."
  else joined

end FilePath

end Appraisal
