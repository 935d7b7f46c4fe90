import QuickFill.Clock.Moment
import QuickFill.Number.Width
import QuickFill.Text.Digits

/-!
# Written clock readings

How years, fractions of a second and clock offsets are written, and the written
form of a whole instant.
-/

namespace QuickFill

namespace Clock

open Text

/-- A year of four digits; outside 0 to 9999 it has a sign. -/
def writeYear (year : Int) : List Char :=
  if 0 ≤ year ∧ year < 10000 then zeroPadded 4 year.natAbs
  else (if year < 0 then '-' else '+') :: zeroPadded 4 year.natAbs

/-- The first places of a fraction of a second. -/
def writePlaces (places nano : Nat) : List Char :=
  zeroPadded places (nano / tenPow (9 - places))

/-- A fraction of a second after a point, in three, six or nine places, as few
as are exact; nothing when it is zero. -/
def writeFraction (nano : Nat) : List Char :=
  if nano = 0 then []
  else if nano % 1000000 = 0 then '.' :: writePlaces 3 nano
  else if nano % 1000 = 0 then '.' :: writePlaces 6 nano
  else '.' :: writePlaces 9 nano

/-- The ways to write the offset of a clock. -/
inductive OffsetStyle where
  /-- Hours and minutes without a colon. -/
  | minutes
  | colonMinutes
  | colonSeconds
  | hours
  /-- Hours and minutes, and seconds when there are any. -/
  | shortest
  deriving DecidableEq, Repr

def offsetSign (offset : Int) : Char :=
  if offset < 0 then '-' else '+'

/-- Hours and minutes of an offset rounded to whole minutes, half a minute up. -/
def writeOffsetMinutes (separator : List Char) (offset : Int) : List Char :=
  let minutes := (offset.natAbs + 30) / 60
  offsetSign offset :: (zeroPadded 2 (minutes / 60) ++ separator ++ zeroPadded 2 (minutes % 60))

def writeOffsetSeconds (offset : Int) : List Char :=
  let seconds := offset.natAbs
  offsetSign offset :: (zeroPadded 2 (seconds / 3600) ++ ':' :: zeroPadded 2 (seconds / 60 % 60) ++
    ':' :: zeroPadded 2 (seconds % 60))

def writeOffset (style : OffsetStyle) (offset : Int) : List Char :=
  match style with
  | .minutes => writeOffsetMinutes [] offset
  | .colonMinutes => writeOffsetMinutes [':'] offset
  | .colonSeconds => writeOffsetSeconds offset
  | .hours => offsetSign offset :: zeroPadded 2 (offset.natAbs / 3600)
  | .shortest =>
    if offset.natAbs % 60 = 0 then writeOffsetMinutes [':'] offset
    else writeOffsetSeconds offset

/-- A date as year, month and day joined by dashes. -/
def writeDate (date : Date) : List Char :=
  writeYear date.year ++ '-' :: zeroPadded 2 date.month ++ '-' :: zeroPadded 2 date.day

/-- A time of day as hour, minute and second, with its fraction. -/
def writeTime (time : TimeOfDay) : List Char :=
  zeroPadded 2 time.hour ++ ':' :: zeroPadded 2 time.minute ++
    ':' :: zeroPadded 2 time.secondOfMinute ++ writeFraction time.nanoOfSecond

/-- A date, a time and an offset in one text. -/
def writeStamp (date : Date) (time : TimeOfDay) (offset : Int) : List Char :=
  writeDate date ++ 'T' :: writeTime time ++ writeOffset .colonMinutes offset

end Clock

/-- What the wall clock shows at an instant, with the offset of the clock. -/
def Instant.stamp (instant : Instant) : String :=
  String.ofList (Clock.writeStamp instant.date instant.time instant.offset)

end QuickFill
