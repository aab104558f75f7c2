import Appraisal.Text.EquivalentTable
import Appraisal.Text.Digit

/-!
# Compatibility composition

Two spellings of a name are one name when their compatibility compositions agree: every character is
replaced by its full decomposition, runs of combining marks are put in the order of their classes,
and marks are joined to the character in front of them where a composed character exists.
-/

namespace Appraisal.Text

/-- An entry of a table: a run of code points and the code points that stand for its first one. -/
structure TableEntry where
  first : Nat
  last : Nat
  target : List Nat
  deriving Inhabited

def hexNumber (s : List Char) : Nat :=
  s.foldl (fun n c => 16 * n + (hexValue? c).getD 0) 0

def splitAt (sep : Char) : List Char → List (List Char)
  | [] => [[]]
  | c :: s =>
      if c = sep then [] :: splitAt sep s
      else
        match splitAt sep s with
        | [] => [[c]]
        | p :: ps => (c :: p) :: ps

def readEntry (s : List Char) : TableEntry :=
  match splitAt '=' s with
  | [run, target] =>
      let target := (splitAt '+' target).map hexNumber
      match splitAt '-' run with
      | [a, b] => ⟨hexNumber a, hexNumber b, target⟩
      | _ => ⟨hexNumber run, hexNumber run, target⟩
  | _ => ⟨0, 0, []⟩

def readTable (lines : List String) : Array TableEntry :=
  (lines.flatMap (fun s => (splitAt ' ' s.toList).map readEntry)).toArray

def compositions : Array TableEntry := readTable compositionTable

def compatibilities : Array TableEntry := readTable compatibilityTable

def combiningClasses : Array TableEntry := readTable combiningTable

def lookup (table : Array TableEntry) (c : Nat) : Option TableEntry :=
  table.find? (fun e => e.first ≤ c && c ≤ e.last)

def combiningClass (c : Nat) : Nat :=
  match lookup combiningClasses c with
  | some e => e.target.headD 0
  | none => 0

def hangulParts (c : Nat) : List Nat :=
  let n := c - 0xAC00
  let last := n % 28
  [0x1100 + n / 588, 0x1161 + n % 588 / 28] ++ if last = 0 then [] else [0x11A7 + last]

/-- The full decomposition of a code point; the first parts of composed characters are decomposed
again, at most so many times. -/
def decompose : Nat → Nat → List Nat
  | 0, c => [c]
  | fuel + 1, c =>
      if 0xAC00 ≤ c && c ≤ 0xD7A3 then hangulParts c
      else
        match lookup compositions c with
        | some e => e.target.flatMap (decompose fuel)
        | none =>
            match lookup compatibilities c with
            | some ⟨first, _, [t]⟩ => [t + (c - first)]
            | some e => e.target
            | none => [c]

/-- Moves a mark in front of the marks of higher classes before it. -/
def insertMark (c : Nat) : List Nat → List Nat
  | [] => [c]
  | d :: rest =>
      if combiningClass c != 0 && combiningClass c < combiningClass d then d :: insertMark c rest
      else c :: d :: rest

/-- Puts marks in the order of their classes; the list and the result are reversed. -/
def orderMarks (cs : List Nat) : List Nat :=
  (cs.foldl (fun acc c => insertMark c acc) []).reverse

def composePair? (a b : Nat) : Option Nat :=
  if 0x1100 ≤ a && a < 0x1113 && 0x1161 ≤ b && b < 0x1176 then
    some (0xAC00 + ((a - 0x1100) * 21 + (b - 0x1161)) * 28)
  else if 0xAC00 ≤ a && a ≤ 0xD7A3 && (a - 0xAC00) % 28 = 0 && 0x11A8 ≤ b && b < 0x11C3 then
    some (a + (b - 0x11A7))
  else (compositions.find? (fun e => e.target == [a, b])).map TableEntry.first

/-- Joins marks to their starter. The marks that could not be joined stand reversed behind it. -/
def compose (starter : Option Nat) (kept : List Nat) : List Nat → List Nat
  | [] => starter.toList ++ kept.reverse
  | c :: rest =>
      let blocked := match kept with
        | [] => false
        | k :: _ => combiningClass k == 0 || combiningClass c ≤ combiningClass k
      match starter with
      | none =>
          if combiningClass c = 0 then compose (some c) [] rest
          else c :: compose none [] rest
      | some s =>
          match if blocked then none else composePair? s c with
          | some joined => compose (some joined) kept rest
          | none =>
              if combiningClass c = 0 then s :: kept.reverse ++ compose (some c) [] rest
              else compose (some s) (c :: kept) rest

def composed (s : List Char) : List Char :=
  let parts := s.flatMap (fun c => decompose 4 c.toNat)
  (compose none [] (orderMarks parts)).map Char.ofNat

end Appraisal.Text
