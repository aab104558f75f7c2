import Appraisal.Refusal

/-!
# Time stamps

An instant as a number of seconds since the start of the year 1970, in UTC. The fraction of a double is
rounded to a microsecond, a half to the even neighbour. Seconds are counted in sixty-four bits, and the
number of a year has thirty-two.
-/

namespace Appraisal

inductive TimestampError
  | nan
  | tooManySeconds
  | tooManyYears
  | year (n : Int)
  deriving DecidableEq, Repr

namespace TimestampError

def refusal : TimestampError → Refusal
  | nan => .stated .value "Invalid value NaN (not a number)"
  | tooManySeconds => .stated .range "timestamp out of range for platform time_t"
  | tooManyYears => .stated .system "[Errno 75] Value too large for defined data type"
  | year n => .calendar (.year n)

end TimestampError

namespace Timestamp

def leastSecond : Int := -9223372036854775808

/-- The first and the last second of the years that can be counted. -/
def firstCounted : Int := -67768040609740800

def lastCounted : Int := 67768036191676799

def epochDay : Int := 719163

/-- The year of a day of the calendar without an end, in cycles of four hundred years. -/
def yearOfDay (day : Int) : Int :=
  let cycle := (day - 1).fdiv 146097
  400 * cycle + (Civil.ofDayNumber ((day - 1).fmod 146097 + 1).toNat).year

def moment (seconds : Int) (micros : Nat) : Except TimestampError Moment :=
  if seconds < leastSecond || -leastSecond ≤ seconds then .error .tooManySeconds
  else if seconds < firstCounted || lastCounted < seconds then .error .tooManyYears
  else
    match Moment.epoch.plus (seconds * microsPerSecond + micros) with
    | .ok t => .ok t
    | .error _ => .error (.year (yearOfDay (epochDay + seconds.fdiv secondsPerDay)))

/-- The whole seconds and the microseconds of a double. Its fraction is scaled as a double before it is
rounded. -/
def parts (negative : Bool) (m : Nat) (q : Int) : Int × Nat :=
  let (wholePart, rest, unit) := Binary.split m q
  let base := Binary.withSign negative wholePart
  match Binary.ofFloat (Binary.nearest false (rest * microsPerSecond) unit) with
  | .finite _ m q =>
      let micros := (Span.nearestEven 0 false m q).toNat
      if negative then
        if micros = 0 then (base, 0) else (base - 1, microsPerSecond - micros)
      else (base + micros / microsPerSecond, micros % microsPerSecond)
  | _ => (base, 0)

def read : Quantity → Except TimestampError Moment
  | .whole n => moment n 0
  | .double x =>
      match Binary.ofFloat x with
      | .nan => .error .nan
      | .infinite _ => .error .tooManySeconds
      | .finite negative m q =>
          let (seconds, micros) := parts negative m q
          moment seconds micros

end Timestamp

end Appraisal
