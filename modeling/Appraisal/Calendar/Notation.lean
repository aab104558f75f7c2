import Appraisal.Calendar.Moment
import Appraisal.Text.Digit
import Appraisal.Text.Quoted

/-!
# Dates and moments in ISO 8601 notation

A date is written by its month and day or by its week and weekday, with hyphens or without. A moment
has a time of day behind any one character, and the offset of its zone behind a sign. Both are read
from the bytes of the text: where a date ends is found by counting bytes before it is read. Bytes past
the end of the text count as zero.
-/

namespace Appraisal

inductive CalendarError
  | unreadable (text : Text)
  | year (n : Int)
  | month
  | day
  | hour
  | minute
  | second
  /-- The offset of a zone is a day or longer. -/
  | offset (micros : Int)
  deriving DecidableEq, Repr

def CalendarError.message : CalendarError → String
  | unreadable s => "Invalid isoformat string: " ++ Text.quoted s
  | year n => "year " ++ intText n ++ " is out of range"
  | month => "month must be in 1..12"
  | day => "day is out of range for month"
  | hour => "hour must be in 0..23"
  | minute => "minute must be in 0..59"
  | second => "second must be in 0..59"
  | offset micros =>
      "offset must be a timedelta strictly between -timedelta(hours=24) and " ++
        "timedelta(hours=24), not " ++ Span.shown micros ++ "."

/-! ### Bytes -/

namespace IsoText

def bytes (cs : List Char) : List Nat :=
  cs.flatMap (fun c => (String.utf8EncodeChar c).map UInt8.toNat)

def hyphen : Nat := 0x2D
def colon : Nat := 0x3A
def letterW : Nat := 0x57
def letterZ : Nat := 0x5A

def isDigitByte (b : Nat) : Bool := 0x30 ≤ b && b ≤ 0x39

def digits? (width : Nat) (s : List Nat) : Option (Nat × List Nat) :=
  let ds := s.take width
  if ds.length = width && ds.all isDigitByte then
    some (Text.digitsValue (ds.map (· - 0x30)), s.drop width)
  else none

def behind? (b : Nat) (s : List Nat) : Option (List Nat) :=
  if s.head? = some b then some (s.drop 1) else none

/-! ### Dates -/

/-- The weekday of the first day of a year, from zero for Monday. -/
def firstWeekday (year : Nat) : Nat := Civil.daysBeforeYear year % 7

/-- A year has a week more if it starts on a Thursday, or on a Wednesday with a leap day to come. -/
def weeks (year : Nat) : Nat :=
  if firstWeekday year = 3 || (firstWeekday year = 2 && Civil.isLeap year) then 53 else 52

/-- The day of a week. The first week of a year is the one with its first Thursday. The year zero has
no months. -/
def ofWeek? (year week weekday : Nat) : Option Civil :=
  if week = 0 || weeks year < week || weekday = 0 || 7 < weekday then none
  else if year = 0 then some ⟨1, 0, 0⟩
  else
    let start := Civil.daysBeforeYear year + 1
    let first := firstWeekday year
    let monday := if first ≤ 3 then start - first else start + 7 - first
    some (Civil.ofDayNumber (monday + (week - 1) * 7 + (weekday - 1)))

def date? (length : Nat) (s : List Nat) : Option Civil := do
  let (year, s) ← digits? 4 s
  let separated := s.head? = some hyphen
  let behindHyphen? (s : List Nat) := if separated then behind? hyphen s else some s
  let s ← behindHyphen? s
  if s.head? = some letterW then
    let (week, s) ← digits? 2 (s.drop 1)
    if length ≤ (if separated then 8 else 7) then ofWeek? year week 1
    else
      let (weekday, _) ← digits? 1 (← behindHyphen? s)
      ofWeek? year week weekday
  else
    let (month, s) ← digits? 2 s
    let (day, _) ← digits? 2 (← behindHyphen? s)
    some ⟨year, month, day⟩

/-- How many bytes the date of a moment takes up. Behind a week, a hyphen in front of two digits parts
the date from the time, and so does a digit that leaves an even number of digits behind it. -/
def dateLength (s : List Nat) : Nat :=
  if s.length = 7 then 7
  else if s[4]? = some hyphen then
    if s[5]? = some letterW then
      if s[8]? = some hyphen && !(s[10]?.any isDigitByte) then 10 else 8
    else 10
  else if s[4]? = some letterW then
    let run := ((s.drop 7).takeWhile isDigitByte).length
    if run < 2 then 7 + run else if run % 2 = 1 then 7 else 8
  else 8

/-! ### Times of day -/

/-- Hours, minutes and seconds as far as they are given, and a fraction of the last of them that
counts as millionths of a second. -/
structure Time where
  parts : List Nat := []
  micros : Nat := 0
  /-- Does something follow that is not part of the time? -/
  followed : Bool := false

namespace Time

def hour (t : Time) : Nat := t.parts.getD 0 0
def minute (t : Time) : Nat := t.parts.getD 1 0
def second (t : Time) : Nat := t.parts.getD 2 0

def seconds (t : Time) : Nat := t.hour * 3600 + t.minute * 60 + t.second

/-- A fraction that takes up at most `length` bytes. Six digits count. -/
def fraction? (length : Nat) (s : List Nat) : Option Time := do
  let width := min length 6
  let (n, s) ← digits? width s
  some { micros := n * tenPow (6 - width)
         followed := ((s.dropWhile isDigitByte).headD 0) != 0 }

/-- The last `left` parts of a time that takes up `length` bytes, and its fraction. Either all parts
are separated by colons or none are. A time may end with one byte more, which is told. -/
def read? (separated : Option Bool) : Nat → Nat → List Nat → Option Time
  | 0, length, s => fraction? length s
  | left + 1, length, s => do
      let (n, s) ← digits? 2 s
      let next := s.headD 0
      let separated := separated.getD (next = colon)
      let rest ←
        if length ≤ 3 then some { followed := next != 0 }
        else if separated && next = colon then read? (some true) left (length - 3) (s.drop 1)
        else if next = 0x2E || next = 0x2C then fraction? (length - 3) (s.drop 1)
        else if separated then none
        else read? (some false) left (length - 2) s
      some { rest with parts := n :: rest.parts }

end Time

def isZoneMark (b : Nat) : Bool := b = 0x2B || b = hyphen || b = letterZ

/-- A time of day and the offset of its zone in microseconds. An offset below a second is none. -/
def timeAndOffset? (s : List Nat) : Option (Time × Option Int) := do
  let length := s.findIdx isZoneMark
  let time ← Time.read? none 3 length s
  match s.drop length with
  | [] => if time.followed then none else some (time, none)
  | mark :: zone =>
      if mark = letterZ then if zone.headD 0 = 0 then some (time, some 0) else none
      else
        let offset ← Time.read? none 3 zone.length zone
        if offset.followed then none
        else
          let micros : Int :=
            if offset.seconds = 0 then 0 else offset.seconds * microsPerSecond + offset.micros
          some (time, some (if mark = hyphen then -micros else micros))

def behindCharacter (s : List Nat) : List Nat :=
  let lead := s.headD 0
  s.drop (if lead < 0x80 then 1 else if lead / 16 = 14 then 3 else if lead / 16 = 15 then 4 else 2)

/-- The date, the time of day and the offset of a moment. A separator with no time behind it may end
the text. -/
def moment? (s : List Nat) : Option (Civil × Time × Option Int) := do
  let length := dateLength s
  let date ← date? length s
  if s.length ≤ length + 1 then some (date, {}, none)
  else
    let (time, offset) ← timeAndOffset? (behindCharacter (s.drop length))
    some (date, time, offset)

/-- The separator may be a surrogate, which has no bytes. -/
def separatorEncoded (s : List Letter) : List Letter :=
  match [7, 8, 10].find? (fun n => s[n]?.any Letter.isSurrogate) with
  | some n => s.set n 'T'
  | none => s

end IsoText

/-! ### Reading -/

def Civil.date (c : Civil) : Except CalendarError Date :=
  if c.year < 1 || 9999 < c.year then .error (.year c.year)
  else if c.month < 1 || 12 < c.month then .error .month
  else
    match Date.ofCivil? c with
    | some d => .ok d
    | none => .error .day

def Date.read (t : Text) : Except CalendarError Date :=
  let civil? := do
    let s := IsoText.bytes (← Text.chars? t.toList)
    if [7, 8, 10].contains s.length then IsoText.date? s.length s else none
  match civil? with
  | some c => c.date
  | none => .error (.unreadable t)

/-- The moment of a date, a time of day and an offset. The offset is looked at first. -/
def Moment.ofParts (c : Civil) (time : IsoText.Time) (offset : Option Int) :
    Except CalendarError Moment :=
  if microsPerDay ≤ (offset.getD 0).natAbs then .error (.offset (offset.getD 0))
  else do
    let d ← c.date
    let micros := time.seconds * microsPerSecond + time.micros
    if 24 ≤ time.hour then .error .hour
    else if 60 ≤ time.minute then .error .minute
    else if 60 ≤ time.second then .error .second
    else if h : micros < microsPerDay then .ok ⟨d, micros, offset, h⟩
    else .error .second

/-- Reads a moment; a date alone is its midnight. -/
def Moment.read (t : Text) : Except CalendarError Moment :=
  match (Text.chars? (IsoText.separatorEncoded t.toList)).bind (IsoText.moment? ∘ IsoText.bytes) with
  | some (c, time, offset) => Moment.ofParts c time offset
  | none => .error (.unreadable t)

end Appraisal
