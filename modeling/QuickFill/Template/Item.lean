import QuickFill.Clock.Written

/-!
# Time templates

A template is text in which `%` starts a specifier.  It is read one character at
a time by a machine with few states, so that reading a joined template is
reading its parts one after the other.
-/

namespace QuickFill

namespace Template

/-- How a number is filled up to its width. -/
inductive Padding where
  | bare
  | zeros
  | spaces
  deriving DecidableEq, Repr

inductive NumberField where
  | year
  | century
  | yearOfCentury
  | isoYear
  | isoYearOfCentury
  | quarter
  | month
  | day
  | dayOfYear
  | weekFromSunday
  | weekFromMonday
  | isoWeek
  | weekdayFromSunday
  | weekdayFromMonday
  | hour
  | halfDayHour
  | minute
  | second
  | nanosecond
  | timestamp
  deriving DecidableEq, Repr

inductive TextField where
  | shortMonth
  | longMonth
  | shortWeekday
  | longWeekday
  | upperHalfDay
  | lowerHalfDay
  | shortestFraction
  | pointFraction (places : Nat)
  | bareFraction (places : Nat)
  | offset (style : Clock.OffsetStyle)
  | instant
  | readOnlyOffset
  deriving DecidableEq, Repr

/-- One piece of a template. -/
inductive Item where
  | literal (character : Char)
  | number (field : NumberField) (padding : Padding)
  | text (field : TextField)
  deriving DecidableEq, Repr

/-- The number that a letter stands for, with its usual padding. -/
def numberField? : Char → Option (NumberField × Padding)
  | 'Y' => some (.year, .zeros)
  | 'C' => some (.century, .zeros)
  | 'y' => some (.yearOfCentury, .zeros)
  | 'G' => some (.isoYear, .zeros)
  | 'g' => some (.isoYearOfCentury, .zeros)
  | 'q' => some (.quarter, .bare)
  | 'm' => some (.month, .zeros)
  | 'd' => some (.day, .zeros)
  | 'e' => some (.day, .spaces)
  | 'j' => some (.dayOfYear, .zeros)
  | 'U' => some (.weekFromSunday, .zeros)
  | 'W' => some (.weekFromMonday, .zeros)
  | 'V' => some (.isoWeek, .zeros)
  | 'w' => some (.weekdayFromSunday, .bare)
  | 'u' => some (.weekdayFromMonday, .bare)
  | 'H' => some (.hour, .zeros)
  | 'k' => some (.hour, .spaces)
  | 'I' => some (.halfDayHour, .zeros)
  | 'l' => some (.halfDayHour, .spaces)
  | 'M' => some (.minute, .zeros)
  | 'S' => some (.second, .zeros)
  | 'f' => some (.nanosecond, .zeros)
  | 's' => some (.timestamp, .bare)
  | _ => none

def numberItem (field : NumberField) : Item :=
  .number field .zeros

/-- The items `month/day/year` with two digits each. -/
def slashDate : List Item :=
  [numberItem .month, .literal '/', numberItem .day, .literal '/', numberItem .yearOfCentury]

/-- The items `hour:minute:second`. -/
def clockTime : List Item :=
  [numberItem .hour, .literal ':', numberItem .minute, .literal ':', numberItem .second]

/-- The items that a letter stands for when it is no single number. -/
def otherItems? : Char → Option (List Item)
  | 'a' => some [.text .shortWeekday]
  | 'A' => some [.text .longWeekday]
  | 'b' | 'h' => some [.text .shortMonth]
  | 'B' => some [.text .longMonth]
  | 'p' => some [.text .upperHalfDay]
  | 'P' => some [.text .lowerHalfDay]
  | 'n' => some [.literal '\n']
  | 't' => some [.literal '\t']
  | '%' => some [.literal '%']
  | 'z' => some [.text (.offset .minutes)]
  | 'Z' => some [.text (.offset .shortest)]
  | '+' => some [.text .instant]
  | 'D' | 'x' => some slashDate
  | 'F' =>
    some [numberItem .year, .literal '-', numberItem .month, .literal '-', numberItem .day]
  | 'v' =>
    some [.number .day .spaces, .literal '-', .text .shortMonth, .literal '-', numberItem .year]
  | 'R' => some [numberItem .hour, .literal ':', numberItem .minute]
  | 'T' | 'X' => some clockTime
  | 'r' =>
    some [numberItem .halfDayHour, .literal ':', numberItem .minute, .literal ':',
      numberItem .second, .literal ' ', .text .upperHalfDay]
  | 'c' =>
    some ([.text .shortWeekday, .literal ' ', .text .shortMonth, .literal ' ',
      .number .day .spaces, .literal ' '] ++ clockTime ++ [.literal ' ', numberItem .year])
  | _ => none

/-- Where the reader stands inside a template. -/
inductive Mode where
  /-- Outside a specifier. -/
  | plain
  /-- After `%`. -/
  | percent
  /-- After `%` and a padding mark. -/
  | padded (padding : Padding)
  /-- After `%#`. -/
  | alternate
  /-- After `%` and one more colon than `further`, of at most three. -/
  | colons (further : Fin 3)
  /-- After `%.`. -/
  | point
  /-- After `%.` and a count of places. -/
  | pointPlaces (places : Nat)
  /-- After `%` and a count of places. -/
  | places (count : Nat)
  deriving DecidableEq, Repr

/-- The number of places that a digit of a fraction specifier asks for. -/
def fractionPlaces? : Char → Option Nat
  | '3' => some 3
  | '6' => some 6
  | '9' => some 9
  | _ => none

/-- The padding that a mark after `%` asks for. -/
def paddingMark? : Char → Option Padding
  | '-' => some .bare
  | '0' => some .zeros
  | '_' => some .spaces
  | _ => none

/-- The offset style that `z` ends after a number of colons. -/
def colonStyle : Fin 3 → Clock.OffsetStyle
  | 0 => .colonMinutes
  | 1 => .colonSeconds
  | 2 => .hours

def afterPercent (character : Char) : Option (Mode × List Item) :=
  if let some padding := paddingMark? character then some (.padded padding, [])
  else if let some places := fractionPlaces? character then some (.places places, [])
  else if character = '#' then some (.alternate, [])
  else if character = ':' then some (.colons 0, [])
  else if character = '.' then some (.point, [])
  else if let some (field, padding) := numberField? character then
    some (.plain, [.number field padding])
  else (otherItems? character).map fun items => (.plain, items)

/-- Read one character: the next mode and the items that are now complete. -/
def step : Mode → Char → Option (Mode × List Item)
  | .plain, '%' => some (.percent, [])
  | .plain, character => some (.plain, [.literal character])
  | .percent, character => afterPercent character
  | .padded padding, character =>
    (numberField? character).map fun found => (.plain, [.number found.1 padding])
  | .alternate, 'z' => some (.plain, [.text .readOnlyOffset])
  | .colons further, 'z' => some (.plain, [.text (.offset (colonStyle further))])
  | .colons 0, ':' => some (.colons 1, [])
  | .colons 1, ':' => some (.colons 2, [])
  | .point, 'f' => some (.plain, [.text .shortestFraction])
  | .point, character =>
    (fractionPlaces? character).map fun places => (.pointPlaces places, [])
  | .pointPlaces places, 'f' => some (.plain, [.text (.pointFraction places)])
  | .places count, 'f' => some (.plain, [.text (.bareFraction count)])
  | _, _ => none

/-- Read a text from a mode on: the mode at its end and the items completed. -/
def scan : Mode → List Char → Option (Mode × List Item)
  | mode, [] => some (mode, [])
  | mode, character :: rest =>
    match step mode character with
    | none => none
    | some (next, items) => (scan next rest).map fun found => (found.1, items ++ found.2)

/-- The items of a template; none if it holds an invalid or unfinished specifier. -/
def items? (template : List Char) : Option (List Item) :=
  match scan .plain template with
  | some (.plain, items) => some items
  | _ => none

end Template

end QuickFill
