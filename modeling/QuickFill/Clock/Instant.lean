import QuickFill.Calendar.Date

/-!
# Instants

An instant is a second of universal time with its nanoseconds and the offset of
the clock that read it.  Inside a leap second the nanoseconds run on past one
thousand million.
-/

namespace QuickFill

def secondsPerDay : Int := 86400

def nanosPerSecond : Nat := 1000000000

/-- A time of day: whole seconds since midnight, and nanoseconds. -/
structure TimeOfDay where
  second : Nat
  nano : Nat
  deriving DecidableEq, Repr

namespace TimeOfDay

/-- The hour, from 0 to 23. -/
def hour (time : TimeOfDay) : Nat := time.second / 3600

def minute (time : TimeOfDay) : Nat := time.second / 60 % 60

/-- The second of the minute; 60 inside a leap second. -/
def secondOfMinute (time : TimeOfDay) : Nat :=
  time.second % 60 + time.nano / nanosPerSecond

def nanoOfSecond (time : TimeOfDay) : Nat := time.nano % nanosPerSecond

/-- The hour on a twelve-hour face, from 1 to 12. -/
def halfDayHour (time : TimeOfDay) : Nat := (time.hour + 11) % 12 + 1

end TimeOfDay

/-- A reading of a clock: seconds of universal time since 1970-01-01, the
nanoseconds, and the seconds by which the clock is east of universal time. -/
structure Instant where
  second : Int
  nano : Nat
  offset : Int
  deriving DecidableEq, Repr

namespace Instant

def epoch : Instant := ⟨0, 0, 0⟩

/-- The seconds that the wall clock shows since the start of 1970. -/
def wallSecond (instant : Instant) : Int :=
  instant.second + instant.offset

def date (instant : Instant) : Date :=
  Date.ofDayNumber (instant.wallSecond / secondsPerDay)

def time (instant : Instant) : TimeOfDay :=
  ⟨(instant.wallSecond % secondsPerDay).toNat, instant.nano⟩

def ofWall (date : Date) (time : TimeOfDay) (offset : Int) : Instant :=
  ⟨date.dayNumber * secondsPerDay + time.second - offset, time.nano, offset⟩

/-- The instant a number of milliseconds after the epoch. -/
def ofMilliseconds (milliseconds offset : Int) : Instant :=
  ⟨milliseconds / 1000, (milliseconds % 1000).toNat * 1000000, offset⟩

/-- Whether the day of universal time lies in the supported range. -/
def InRange (instant : Instant) : Prop :=
  Date.firstDay ≤ instant.second / secondsPerDay ∧
    instant.second / secondsPerDay ≤ Date.lastDay

instance (instant : Instant) : Decidable instant.InRange :=
  inferInstanceAs (Decidable (_ ∧ _))

/-- The instant a number of seconds later.  A move forward leaves a leap second
at its start, a move backward leaves it at its end. -/
def addSeconds (instant : Instant) (seconds : Int) : Instant :=
  if seconds = 0 ∨ instant.nano < nanosPerSecond then
    { instant with second := instant.second + seconds }
  else
    { instant with
      second := instant.second + seconds + (if seconds < 0 then 1 else 0)
      nano := instant.nano - nanosPerSecond }

/-- The instant a number of seconds later, if it lies in the supported range. -/
def addSeconds? (instant : Instant) (seconds : Int) : Option Instant :=
  let moved := instant.addSeconds seconds
  if moved.InRange then some moved else none

end Instant

end QuickFill
