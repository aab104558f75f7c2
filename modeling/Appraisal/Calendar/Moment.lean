import Appraisal.Calendar.Date
import Appraisal.Number.Quantity

/-!
# Moments and spans of time

A moment is a date, a time of day and, when its zone is known, the offset of the zone, both in
microseconds. Arithmetic is on local time: the zone of a moment never changes. A span is a number of
microseconds; the calendar takes spans below a billion days.
-/

namespace Appraisal

def microsPerSecond : Nat := 1000000

def secondsPerDay : Nat := 86400

def microsPerDay : Nat := secondsPerDay * microsPerSecond

structure Moment where
  date : Date
  micros : Nat
  offset : Option Int
  micros_lt : micros < microsPerDay := by decide
  deriving DecidableEq

inductive TimeError
  | tooManyDays
  | daysPastLimit (days : Int)
  | outOfRange
  | notIntegral (why : NotIntegral)
  deriving DecidableEq, Repr

namespace TimeError

def message : TimeError → String
  | tooManyDays => "Python int too large to convert to C int"
  | daysPastLimit days =>
      "days=" ++ intText days ++ "; must have magnitude <= 999999999"
  | outOfRange => "date value out of range"
  | notIntegral why => why.message

end TimeError

namespace Span

def checked (micros : Int) : Except TimeError Int :=
  let days := micros.fdiv microsPerDay
  if days < -2147483648 || 2147483647 < days then .error .tooManyDays
  else if days < -999999999 || 999999999 < days then .error (.daysPastLimit days)
  else .ok micros

/-- The integer nearest to a double fraction, a half to the even neighbour once it is added to
`base`. -/
def nearestEven (base : Int) (negative : Bool) (m : Nat) (q : Int) : Int :=
  let (wholePart, rest, unit) := Binary.split m q
  let isOdd := (base + wholePart) % 2 != 0
  let up := if unit < 2 * rest then true else unit == 2 * rest && isOdd
  Binary.withSign negative (if up && rest != 0 then wholePart + 1 else wholePart)

/-- The span of a number of units of `unit` microseconds. The whole part of a double is exact; its
fraction is scaled as a double and then rounded to a microsecond, a half to the even neighbour. -/
def ofUnits (unit : Nat) : Quantity → Except TimeError Int
  | .whole n => checked (n * unit)
  | .double x =>
      match Binary.ofFloat x with
      | .nan => .error (.notIntegral .nan)
      | .infinite _ => .error (.notIntegral .infinite)
      | .finite negative m q =>
          let (wholePart, rest, one) := Binary.split m q
          let base := Binary.withSign negative wholePart * unit
          if rest = 0 then checked base
          else
            let scaled := Binary.nearest negative (rest * unit) one
            match Binary.ofFloat scaled with
            | .finite negative m q =>
                let (wholeMicros, _, _) := Binary.split m q
                let base := base + Binary.withSign negative wholeMicros
                let rest := if 0 ≤ q then 0 else m % twoPow (-q).toNat
                checked (base + nearestEven base negative rest q)
            | _ => checked base

def ofSeconds : Quantity → Except TimeError Int := ofUnits microsPerSecond

def ofDays : Quantity → Except TimeError Int := ofUnits microsPerDay

/-- The days, seconds and microseconds of a span that are not zero; all but the days count up. -/
def parts (micros : Int) : List (String × Int) :=
  [("days", micros.fdiv microsPerDay),
   ("seconds", (micros.fmod microsPerDay).fdiv microsPerSecond),
   ("microseconds", micros.fmod microsPerSecond)].filter (fun p => p.2 != 0)

def shown (micros : Int) : String :=
  let parts := (parts micros).map (fun p => p.1 ++ "=" ++ intText p.2)
  "datetime.timedelta(" ++ (if parts.isEmpty then "0" else ", ".intercalate parts) ++ ")"

def seconds (micros : Int) : Float :=
  floatOfRatio micros microsPerSecond

end Span

namespace Moment

def plus (t : Moment) (micros : Int) : Except TimeError Moment :=
  let total := (t.micros : Int) + micros
  match t.date.plusDays? (total.fdiv microsPerDay) with
  | none => .error .outOfRange
  | some d =>
      .ok ⟨d, (total.fmod microsPerDay).toNat, t.offset, by
        have h : (0 : Int) < microsPerDay := by decide
        have h₁ := Int.fmod_nonneg_of_pos total h
        have h₂ := Int.fmod_lt_of_pos total h
        omega⟩

def epoch : Moment := ⟨⟨719163, by decide, by decide⟩, 0, some 0, by decide⟩

def midnight (d : Date) (offset : Option Int) : Moment := ⟨d, 0, offset, by decide⟩

def endOfDay (t : Moment) : Moment := ⟨t.date, microsPerDay - 1, t.offset, by decide⟩

def microsSince (start : Date) (t : Moment) : Int :=
  start.daysTo t.date * microsPerDay + t.micros

/-- The microseconds since the day before the first date on a clock without an offset. -/
def instant (t : Moment) : Int :=
  t.date.day * microsPerDay + t.micros - t.offset.getD 0

/-- The order of two moments both of whose zones are known, or neither. -/
def order (a b : Moment) : Ordering := compare a.instant b.instant

def timeChars (micros : Nat) : List Char :=
  let seconds := micros / microsPerSecond
  let fraction := micros % microsPerSecond
  Date.padded 2 (seconds / 3600) ++ ':' :: Date.padded 2 (seconds / 60 % 60) ++
    ':' :: Date.padded 2 (seconds % 60) ++
    if fraction = 0 then [] else '.' :: Date.padded 6 fraction

def offsetChars (offset : Int) : List Char :=
  let fraction := offset.natAbs % microsPerSecond
  let n := offset.natAbs / microsPerSecond
  (if offset < 0 then '-' else '+') :: Date.padded 2 (n / 3600) ++
    ':' :: Date.padded 2 (n / 60 % 60) ++
    (if n % 60 = 0 && fraction = 0 then [] else ':' :: Date.padded 2 (n % 60)) ++
    if fraction = 0 then [] else '.' :: Date.padded 6 fraction

def chars (separator : Char) (t : Moment) : List Char :=
  t.date.chars ++ separator :: timeChars t.micros ++
    match t.offset with
    | none => []
    | some o => offsetChars o

def text (t : Moment) : String := String.ofList (t.chars 'T')

def spacedText (t : Moment) : String := String.ofList (t.chars ' ')

end Moment

end Appraisal
