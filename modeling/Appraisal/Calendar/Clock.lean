import Appraisal.Refusal

/-!
# Clocks

A clock stands at an instant until it is set or advanced. What it was advanced by is kept apart from
the instant it was set to, and the two are added when it is read.
-/

namespace Appraisal

structure Clock where
  base : Moment
  /-- The seconds since the clock was set. -/
  advanced : Quantity

namespace Clock

def defaultTime : Moment :=
  ⟨.newYear2024, 12 * 3600 * microsPerSecond, some 0, by decide⟩

def atMoment (t : Moment) : Clock := ⟨t, .whole 0⟩

def default : Clock := atMoment defaultTime

def now (c : Clock) : Except Refusal Moment :=
  ((Span.ofSeconds c.advanced).bind c.base.plus).mapError .time

def endOfToday (c : Clock) : Except Refusal Moment :=
  c.now.map Moment.endOfDay

def advance (c : Clock) (seconds : Quantity := .whole 1) : Except Refusal Clock :=
  ((c.advanced.add seconds).mapError .quantity).map (fun total => { c with advanced := total })

def advanceDays (c : Clock) (days : Quantity) : Except Refusal Clock :=
  ((days.mul (.whole secondsPerDay)).mapError .quantity).bind (fun s => c.advance s)

end Clock

end Appraisal
