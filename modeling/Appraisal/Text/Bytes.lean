/-!
# Characters of bytes

Bytes write characters in UTF-8: the first byte of a character says how many follow it and in which
range the next one lies. Bytes that write no character are not refused: the longest beginning of a
character, or else a single byte, stands for the replacement character.
-/

namespace Appraisal.Text

structure OpenCharacter where
  /-- How many bytes are still to come. -/
  left : Nat
  /-- The code point as far as it is known. -/
  code : Nat
  /-- The range of the next byte. -/
  low : Nat := 0x80
  high : Nat := 0xBF
  deriving DecidableEq, Repr

def replacement : Char := '\uFFFD'

def begun? (b : Nat) : Option OpenCharacter :=
  if b < 0xC2 then none
  else if b < 0xE0 then some { left := 1, code := b % 32 }
  else if b = 0xE0 then some { left := 2, code := 0, low := 0xA0 }
  else if b = 0xED then some { left := 2, code := 0xD, high := 0x9F }
  else if b < 0xF0 then some { left := 2, code := b % 16 }
  else if b = 0xF0 then some { left := 3, code := 0, low := 0x90 }
  else if b < 0xF4 then some { left := 3, code := b % 8 }
  else if b = 0xF4 then some { left := 3, code := 4, high := 0x8F }
  else none

/-- What a byte between two characters gives, and the character that it begins. -/
def fresh (b : Nat) : List Char × Option OpenCharacter :=
  if b < 0x80 then ([Char.ofNat b], none)
  else
    match begun? b with
    | some o => ([], some o)
    | none => ([replacement], none)

/-- What one more byte gives, and the character that is then open. -/
def step (opened : Option OpenCharacter) (b : Nat) : List Char × Option OpenCharacter :=
  match opened with
  | none => fresh b
  | some o =>
      if o.low ≤ b && b ≤ o.high then
        let code := o.code * 64 + b % 64
        if o.left = 1 then ([Char.ofNat code], none) else ([], some { left := o.left - 1, code })
      else (replacement :: (fresh b).1, (fresh b).2)

/-- The characters of bytes, behind a character that may be open. -/
def charactersFrom (opened : Option OpenCharacter) : List Nat → List Char
  | [] => if opened.isSome then [replacement] else []
  | b :: bs => (step opened b).1 ++ charactersFrom (step opened b).2 bs

def characters (bytes : List Nat) : List Char := charactersFrom none bytes

end Appraisal.Text
