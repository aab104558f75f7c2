import Appraisal.Text.Basic
import Appraisal.Text.CharacterName
import Appraisal.Text.Digit

/-!
# Escapes

What the backslashes inside a quoted piece stand for. A backslash before a character with no meaning
stays where it is.
-/

namespace Appraisal.Formula

def plainEscape? : Char → Option Nat
  | '\\' => some 0x5C
  | '\x27' => some 0x27
  | '"' => some 0x22
  | 'a' => some 7
  | 'b' => some 8
  | 't' => some 9
  | 'n' => some 10
  | 'v' => some 11
  | 'f' => some 12
  | 'r' => some 13
  | _ => none

def isOctal (c : Char) : Bool := '0' ≤ c && c ≤ '7'

def octal (s : List Char) : Nat × List Char :=
  let ds := (s.take 3).takeWhile isOctal
  (ds.foldl (fun n c => 8 * n + (c.toNat - 0x30)) 0, s.drop ds.length)

def textEscape? : List Char → Option (List Nat × List Char)
  | [] => some ([0x5C], [])
  | '\n' :: s => some ([], s)
  | 'x' :: s => (Text.hexDigits? 2 s).map (fun r => ([r.1], r.2))
  | 'u' :: s => (Text.hexDigits? 4 s).map (fun r => ([r.1], r.2))
  | 'U' :: s =>
      match Text.hexDigits? 8 s with
      | some (n, s) => if n < 0x110000 then some ([n], s) else none
      | none => none
  | 'N' :: '\x7b' :: s =>
      let name := s.takeWhile (· != '\x7d')
      let rest := s.drop name.length
      if name.isEmpty || rest.isEmpty then none
      else (Text.CharacterName.code? name).map (fun n => ([n], rest.drop 1))
  | 'N' :: _ => none
  | c :: s =>
      match plainEscape? c with
      | some n => some ([n], s)
      | none =>
          if isOctal c then
            let (n, s) := octal (c :: s)
            some ([n], s)
          else some ([0x5C, c.toNat], s)

def byteEscape? : List Char → Option (List Nat × List Char)
  | [] => some ([0x5C], [])
  | '\n' :: s => some ([], s)
  | 'x' :: s => (Text.hexDigits? 2 s).map (fun r => ([r.1], r.2))
  | c :: s =>
      match plainEscape? c with
      | some n => some ([n], s)
      | none =>
          if isOctal c then
            let (n, s) := octal (c :: s)
            some ([n % 256], s)
          else some ([0x5C, c.toNat], s)

/-- The code points of a quoted piece. The length of the text bounds the steps. -/
def unescape? (escape? : List Char → Option (List Nat × List Char)) :
    Nat → List Char → Option (List Nat)
  | _, [] => some []
  | 0, _ => none
  | fuel + 1, '\\' :: s =>
      match escape? s with
      | some (ns, s) => (unescape? escape? fuel s).map (ns ++ ·)
      | none => none
  | fuel + 1, c :: s => (unescape? escape? fuel s).map (c.toNat :: ·)

/-- The letters of a piece; in a raw piece backslashes are plain characters. -/
def textOf? (raw : Bool) (body : List Char) : Option (List Letter) :=
  if raw then some (body.map .char)
  else (unescape? textEscape? (body.length + 1) body).map (·.map .ofCode)

def bytesOf? (raw : Bool) (body : List Char) : Option (List Nat) :=
  if body.all (fun c => c.toNat < 128) then
    if raw then some (body.map Char.toNat) else unescape? byteEscape? (body.length + 1) body
  else none

end Appraisal.Formula
