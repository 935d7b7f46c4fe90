import QuickFill.Clock.Instant
import QuickFill.Number.Width
import QuickFill.Text.Digits

/-!
# Reading time stamps

A time stamp is a date, a time of day and an offset in fixed columns.  Its second
may be 60, which stands for the leap second after the 59th of any minute.
-/

namespace QuickFill

namespace Clock

open Text

/-- Read exactly a number of digits. -/
def readColumns? (columns : Nat) (text : List Char) : Option (Nat × List Char) :=
  let digits := (leadingDigits text).take columns
  if digits.length = columns then some (digitsValue digits, text.drop columns) else none

def readMark? (accepts : Char → Bool) : List Char → Option (List Char)
  | mark :: rest => if accepts mark then some rest else none
  | [] => none

/-- Read an optional fraction of a second as nanoseconds; places past the ninth
are dropped. -/
def readFraction? : List Char → Option (Nat × List Char)
  | '.' :: rest =>
    let digits := leadingDigits rest
    if digits.isEmpty then none
    else
      let kept := digits.take 9
      some (digitsValue kept * tenPow (9 - kept.length), afterDigits rest)
  | text => some (0, text)

/-- Read an offset from universal time as seconds, up to the end of the text. -/
def readOffset? : List Char → Option Int
  | ['Z'] => some 0
  | ['z'] => some 0
  | sign :: text => do
    let negative := sign == '-' || sign == '\u2212'
    if !negative && sign != '+' then none
    let (hours, afterHours) ← readColumns? 2 text
    let (minutes, rest) ← readColumns? 2 (← readMark? (· == ':') afterHours)
    if hours ≤ 23 ∧ minutes ≤ 59 ∧ rest = [] then
      let seconds : Int := hours * 3600 + minutes * 60
      some (if negative then -seconds else seconds)
    else none
  | [] => none

def readDate? (text : List Char) : Option (Date × List Char) := do
  let (year, afterYear) ← readColumns? 4 text
  let (month, afterMonth) ← readColumns? 2 (← readMark? (· == '-') afterYear)
  let (day, rest) ← readColumns? 2 (← readMark? (· == '-') afterMonth)
  let date ← Date.ofCivil? year month day
  some (date, rest)

def readTime? (text : List Char) : Option (TimeOfDay × List Char) := do
  let (hour, afterHour) ← readColumns? 2 text
  let (minute, afterMinute) ← readColumns? 2 (← readMark? (· == ':') afterHour)
  let (second, afterSecond) ← readColumns? 2 (← readMark? (· == ':') afterMinute)
  let (nano, rest) ← readFraction? afterSecond
  if hour ≤ 23 ∧ minute ≤ 59 ∧ second ≤ 60 then
    let start := hour * 3600 + minute * 60
    let time : TimeOfDay :=
      if second = 60 then ⟨start + 59, nano + nanosPerSecond⟩ else ⟨start + second, nano⟩
    some (time, rest)
  else none

end Clock

def Instant.read? (text : List Char) : Option Instant := do
  let (date, afterDate) ← Clock.readDate? text
  let (time, afterTime) ←
    Clock.readTime? (← Clock.readMark? (fun mark => mark == 'T' || mark == 't' || mark == ' ')
      afterDate)
  let offset ← Clock.readOffset? afterTime
  some (Instant.ofWall date time offset)

end QuickFill
