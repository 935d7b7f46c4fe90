import QuickFill.Calendar.Week
import QuickFill.Template.Item

/-!
# Filled templates

A template is filled from a moment.  A template that asks for a part the moment
does not have yields nothing at all.
-/

namespace QuickFill

namespace Template

open Text

/-- How a number is written before padding: in one digit, in two, or in a run of
digits of a least width, perhaps with a sign that is always there. -/
inductive Figure where
  | single (value : Nat)
  | pair (value : Nat)
  | run (width : Nat) (value : Int)
  | signedRun (width : Nat) (value : Int)
  deriving DecidableEq, Repr

/-- The character a number of places after the digit zero. -/
def digitFrom (value : Nat) : Char :=
  Char.ofNat ('0'.toNat + value)

/-- A signed number filled up to a width; zeros go between sign and digits. -/
def padNumber (padding : Padding) (width : Nat) (sign digits : List Char) : List Char :=
  match padding with
  | .bare => sign ++ digits
  | .zeros => sign ++ padLeft (width - sign.length) '0' digits
  | .spaces => padLeft width ' ' (sign ++ digits)

/-- The sign of an integer, with `unsigned` for one that is not negative. -/
def signOr (unsigned : List Char) (value : Int) : List Char :=
  if value < 0 then ['-'] else unsigned

/-- A two-digit number; a value of a hundred or more goes on through the
characters after the digits for its tens. -/
def writePair (padding : Padding) (value : Nat) : List Char :=
  if 10 ≤ value then [digitFrom (value / 10), digitFrom (value % 10)]
  else
    match padding with
    | .bare => [digitFrom value]
    | .zeros => ['0', digitFrom value]
    | .spaces => [' ', digitFrom value]

/-- A number as it is written with a padding. -/
def Figure.render (padding : Padding) : Figure → List Char
  | .single value => [digitFrom value]
  | .pair value => writePair padding value
  | .run width value => padNumber padding width (signOr [] value) (decimal value.natAbs)
  | .signedRun width value =>
    padNumber padding (width + 1) (signOr ['+'] value) (decimal value.natAbs)

/-- A year takes four digits, and a sign when it is outside 0 to 9999. -/
def yearFigure (year : Int) : Figure :=
  if 0 ≤ year ∧ year < 10000 then .run 4 year else .signedRun 4 year

/-- The seconds of universal time since 1970; without an offset, of the wall
clock. -/
def secondsSinceEpoch (date : Date) (time : TimeOfDay) (offset : Option Int) : Int :=
  date.dayNumber * secondsPerDay + time.second - offset.getD 0

def NumberField.figure? (moment : Moment) : NumberField → Option Figure
  | .year => some (yearFigure moment.date.year)
  | .century => some (.pair (moment.date.year / 100 % 256).toNat)
  | .yearOfCentury => some (.pair (moment.date.year % 100).toNat)
  | .isoYear => some (yearFigure moment.date.isoYear)
  | .isoYearOfCentury => some (.pair (moment.date.isoYear % 100).toNat)
  | .quarter => some (.single moment.date.quarter)
  | .month => some (.pair moment.date.month)
  | .day => some (.pair moment.date.day)
  | .dayOfYear => some (.run 3 (moment.date.daysIntoYear + 1))
  | .weekFromSunday => some (.pair moment.date.weekFromSunday)
  | .weekFromMonday => some (.pair moment.date.weekFromMonday)
  | .isoWeek => some (.pair moment.date.isoWeek)
  | .weekdayFromSunday => some (.single moment.date.daysFromSunday)
  | .weekdayFromMonday => some (.single (moment.date.daysFromMonday + 1))
  | .hour => moment.time.map fun time => .pair time.hour
  | .halfDayHour => moment.time.map fun time => .pair time.halfDayHour
  | .minute => moment.time.map fun time => .pair time.minute
  | .second => moment.time.map fun time => .pair time.secondOfMinute
  | .nanosecond => moment.time.map fun time => .run 9 time.nanoOfSecond
  | .timestamp => moment.time.map fun time => .run 9 (secondsSinceEpoch moment.date time moment.offset)

/-- The first letters of a name. -/
def shortName (name : String) : List Char :=
  name.toList.take 3

def monthName (date : Date) : String :=
  monthNames.getD (date.month - 1) ""

def weekdayName (date : Date) : String :=
  weekdayNames.getD date.daysFromMonday ""

def TextField.render? (moment : Moment) : TextField → Option (List Char)
  | .shortMonth => some (shortName (monthName moment.date))
  | .longMonth => some (monthName moment.date).toList
  | .shortWeekday => some (shortName (weekdayName moment.date))
  | .longWeekday => some (weekdayName moment.date).toList
  | .upperHalfDay =>
    moment.time.map fun time => if time.hour < 12 then ['A', 'M'] else ['P', 'M']
  | .lowerHalfDay =>
    moment.time.map fun time => if time.hour < 12 then ['a', 'm'] else ['p', 'm']
  | .shortestFraction => moment.time.map fun time => Clock.writeFraction time.nanoOfSecond
  | .pointFraction places =>
    moment.time.map fun time => '.' :: Clock.writePlaces places time.nanoOfSecond
  | .bareFraction places =>
    moment.time.map fun time => Clock.writePlaces places time.nanoOfSecond
  | .offset style => moment.offset.map (Clock.writeOffset style)
  | .instant =>
    match moment.time, moment.offset with
    | some time, some seconds => some (Clock.writeStamp moment.date time seconds)
    | _, _ => none
  | .readOnlyOffset => none

def Item.render? (moment : Moment) : Item → Option (List Char)
  | .literal character => some [character]
  | .number field padding => (field.figure? moment).map (Figure.render padding)
  | .text field => field.render? moment

def renderItems? (moment : Moment) : List Item → Option (List Char)
  | [] => some []
  | item :: rest =>
    match item.render? moment, renderItems? moment rest with
    | some shown, some more => some (shown ++ more)
    | _, _ => none

def render? (template : String) (moment : Moment) : Option String :=
  ((items? template.toList).bind (renderItems? moment)).map String.ofList

end Template

end QuickFill
