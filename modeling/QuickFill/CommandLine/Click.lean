import QuickFill.Calendar.DateText
import QuickFill.Session.Fill

/-!
# Clicks

A click is written as an action, a handle and perhaps one more part, separated by
colons.  The handle is read before the action is looked at, and superfluous parts
are found last.
-/

namespace QuickFill

/-- An action on the links of a page. -/
inductive Click where
  | now (handle : Nat)
  | hour (handle : Nat) (hour : Int)
  | today (handle : Nat) (days : Int)
  | pick (handle : Nat) (date : Date)
  deriving DecidableEq

inductive ClickFault where
  | noHandle
  | badHandle (cause : Text.NumeralFault)
  | badHour (cause : Text.NumeralFault)
  | badDays (cause : Text.NumeralFault)
  | badDate (cause : DateFault)
  | unknownAction
  | superfluousPart
  deriving DecidableEq, Repr

def ClickFault.message (raw : String) : ClickFault → String
  | .noHandle => "Thiếu handle trong `" ++ raw ++ "`"
  | .badHandle cause => "Handle không hợp lệ trong `" ++ raw ++ "`: " ++ cause.message
  | .badHour cause => "Giờ không hợp lệ: " ++ cause.message
  | .badDays cause => "Độ lệch ngày không hợp lệ: " ++ cause.message
  | .badDate cause => "Ngày không hợp lệ: " ++ cause.message
  | .unknownAction => "Không hiểu thao tác `" ++ raw ++ "`"
  | .superfluousPart => "Thừa tham số trong `" ++ raw ++ "`"

namespace Click

open Text

/-- A computed value, with its fault put into words of the click. -/
def orFault {ε α : Type} (fault : ε → ClickFault) : Except ε α → Except ClickFault α
  | .ok value => .ok value
  | .error cause => .error (fault cause)

def readLong : List Char → Except NumeralFault Int :=
  readInteger leastInt64.natAbs greatestInt64.natAbs

/-- The click with an action word, a handle and perhaps one more part. -/
def ofParts (action : List Char) (handle : Nat) (extra : Option (List Char)) :
    Except ClickFault Click :=
  match String.ofList action, extra with
  | "now", none => .ok (.now handle)
  | "hour", some part => (orFault .badHour (readLong part)).map (.hour handle)
  | "today", none => .ok (.today handle 0)
  | "today", some part => (orFault .badDays (readLong part)).map (.today handle)
  | "pick", some part => (orFault .badDate (Date.read part)).map (.pick handle)
  | _, _ => .error .unknownAction

def readParts : List (List Char) → Except ClickFault Click
  | action :: handle :: rest => do
    let handle ← orFault .badHandle (readNatural greatestNat64 handle)
    let click ← ofParts action handle rest.head?
    if rest.tail.isEmpty then .ok click else .error .superfluousPart
  | _ => .error .noHandle

def read (raw : String) : Except ClickFault Click :=
  readParts (raw.toList.splitOn ':')

variable {σ ι : Type} [Environment σ] [Fillable σ ι]

/-- Do what a click asks for; clock inputs are filled in the template of time
fields. -/
def perform : Click → Action σ ι String
  | .now handle => do
    Session.fillClock handle .now (← get).session.settings.timeTemplate
  | .hour handle number => do
    let value ← Session.yields (ClockValue.ofSentinel number)
    Session.fillClock handle value (← get).session.settings.timeTemplate
  | .today handle days => Session.fillCalendar handle days
  | .pick handle date => Session.pickDate handle date.year date.month date.day

end Click

end QuickFill
