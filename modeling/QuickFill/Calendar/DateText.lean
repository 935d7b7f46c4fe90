import QuickFill.Calendar.Date
import QuickFill.Number.Width
import QuickFill.Text.Blank
import QuickFill.Text.Digits

/-!
# Dates as text

The reader of dates written as year, month and day joined by dashes.  It reads
from left to right, skips white space before each number, and reports the first
fault it meets; whether the three numbers name a date is asked last.
-/

namespace QuickFill

inductive DateFault where
  | prematureEnd
  | invalidCharacter
  | outOfRange
  | trailingInput
  deriving DecidableEq, Repr

def DateFault.message : DateFault → String
  | .prematureEnd => "premature end of input"
  | .invalidCharacter => "input contains invalid characters"
  | .outOfRange => "input is out of range"
  | .trailingInput => "trailing input"

namespace Date

open Text

/-- Read a non-empty run of digits; the rest of the text goes with its value. -/
def readRun : List Char → Except DateFault (Nat × List Char)
  | [] => .error .prematureEnd
  | text =>
    let digits := leadingDigits text
    if digits.isEmpty then .error .invalidCharacter
    else .ok (digitsValue digits, afterDigits text)

/-- Read at least one digit and at most a number of them. -/
def readShortRun (most : Nat) : List Char → Except DateFault (Nat × List Char)
  | [] => .error .prematureEnd
  | text =>
    let digits := (leadingDigits text).take most
    if digits.isEmpty then .error .invalidCharacter
    else .ok (digitsValue digits, text.drop digits.length)

/-- Read a year: a sign and any number of digits, or at most four digits. -/
def readYear (text : List Char) : Except DateFault (Int × List Char) := do
  let (year, rest) ←
    match trimStart text with
    | '-' :: digits => (readRun digits).map fun found => (-(found.1 : Int), found.2)
    | '+' :: digits => (readRun digits).map fun found => ((found.1 : Int), found.2)
    | digits => (readShortRun 4 digits).map fun found => ((found.1 : Int), found.2)
  if leastInt32 ≤ year ∧ year ≤ greatestInt32 then .ok (year, rest) else .error .outOfRange

/-- Read a number of at most two digits between one and a greatest value. -/
def readPart (greatest : Nat) (text : List Char) : Except DateFault (Nat × List Char) := do
  let (part, rest) ← readShortRun 2 (trimStart text)
  if 1 ≤ part ∧ part ≤ greatest then .ok (part, rest) else .error .outOfRange

def readDash : List Char → Except DateFault (List Char)
  | [] => .error .prematureEnd
  | '-' :: rest => .ok rest
  | _ :: _ => .error .invalidCharacter

/-- Read a whole text as a date of the supported range. -/
def read (text : List Char) : Except DateFault Date := do
  let (year, afterYear) ← readYear text
  let (month, afterMonth) ← readPart 12 (← readDash afterYear)
  let (day, rest) ← readPart 31 (← readDash afterMonth)
  if rest.isEmpty then
    match ofSupported? year month day with
    | some date => .ok date
    | none => .error .outOfRange
  else .error .trailingInput

end Date

end QuickFill
