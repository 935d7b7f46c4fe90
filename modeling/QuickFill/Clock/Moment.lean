import QuickFill.Clock.Instant

/-!
# Moments

What a template can show: a date, perhaps with a time of day, perhaps with the
offset of a clock.
-/

namespace QuickFill

structure Moment where
  date : Date
  time : Option TimeOfDay
  offset : Option Int
  deriving DecidableEq

namespace Moment

def ofDate (date : Date) : Moment :=
  ⟨date, none, none⟩

def ofWall (date : Date) (time : TimeOfDay) : Moment :=
  ⟨date, some time, none⟩

def ofInstant (instant : Instant) : Moment :=
  ⟨instant.date, some instant.time, some instant.offset⟩

/-- The moment of a full hour on 1970-02-01. -/
def ofHour? (hour : Nat) : Option Moment :=
  if hour < 24 then
    (Date.ofCivil? 1970 2 1).map fun date => ofWall date ⟨hour * 3600, 0⟩
  else none

end Moment

end QuickFill
