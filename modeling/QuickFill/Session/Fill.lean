import QuickFill.Session.Basic
import QuickFill.Template.Render
import QuickFill.Text.Blank

/-!
# Filling inputs

A link, or a script of the page, fills a registered input with a time or a date
and moves the focus there.  Everything that can fail for want of a handle, a
value or a template fails before the page is touched.
-/

namespace QuickFill

/-- The step in seconds that an attribute names: the digits at its start, blanks
and a plus sign apart; a missing, zero or oversized step is the standard one. -/
def readStep (standard : Nat) : Option String → Nat
  | none => standard
  | some raw =>
    let text :=
      match Text.trimStart raw.toList with
      | '+' :: rest => rest
      | text => text
    let step := Text.digitsValue (Text.leadingDigits text)
    if 0 < step ∧ step ≤ greatestNat32 then step else standard

/-- A template that shows seconds, too, when the step is no whole number of
minutes. -/
def clockTemplate (template : String) (step : Nat) : String :=
  if step % 60 = 0 then template else template ++ ":%S"

/-- What a clock input is filled with. -/
inductive ClockValue where
  | now
  | hour (hour : Nat)
  deriving DecidableEq, Repr

/-- The value that a script asks for by a number: -1 for now, else an hour. -/
def ClockValue.ofSentinel (value : Int) : Except Fault ClockValue :=
  if value = -1 then .ok .now
  else if 0 ≤ value ∧ value ≤ 23 then .ok (.hour value.toNat)
  else .error (.invalidHour value)

/-- The greatest distance in days that can be moved, up or down. -/
def farthestDays : Nat := 106751991167

namespace Session

variable {σ ι : Type} [Environment σ] [Fillable σ ι]

/-- A computed value, or its fault. -/
def yields {α : Type} (outcome : Except Fault α) : Action σ ι α := fun running =>
  match outcome with
  | .ok value => .ok value running
  | .error fault => .error fault running

def resolve (kind : LinkKind) (handle : Nat) : Action σ ι ι := do
  match (← get).session.registry.resolve kind handle with
  | .ok input => return input
  | .error fault =>
    log (.handleUnknown kind handle)
    throw fault

def now : Action σ ι Instant := do
  let running ← get
  match running.session.gap.serverTime? (Environment.clock running.page) with
  | some instant => return instant
  | none => throw .clockOutOfRange

/-- The date of the server; the wall clock may be a day out of range. -/
def today : Action σ ι Date := do
  let date := (← now).date
  if date.InRange then return date else throw .clockOutOfRange

def fill (template : String) (moment : Moment) : Except Fault String :=
  match Template.render? template moment with
  | some text => .ok text
  | none => .error (.invalidTemplate template)

def momentOf : ClockValue → Action σ ι Moment
  | .now => do return .ofInstant (← now)
  | .hour hour =>
    match Moment.ofHour? hour with
    | some moment => return moment
    | none => throw (.invalidHour hour)

def writeAndFocus (input : ι) (text : String) : Action σ ι Unit := do
  change fun page => Fillable.write page input text
  change fun page => Fillable.focus page input

/-- Fill a clock input with a value in a template; the text written. -/
def fillClock (handle : Nat) (value : ClockValue) (template : String) : Action σ ι String := do
  let input ← resolve .clock handle
  let running ← get
  let step := readStep running.session.settings.defaultStep (Fillable.step? running.page input)
  let moment ← momentOf value
  let text ← yields (fill (clockTemplate template step) moment)
  writeAndFocus input text
  log (.clockFilled handle step)
  return text

def dayFromToday (days : Int) : Action σ ι Date := do
  if farthestDays < days.natAbs then throw (.dayOffsetOutOfRange days)
  match (← today).addDays? days with
  | some date => return date
  | none => throw (.dayOffsetOutOfRange days)

/-- Fill a calendar input with the date a number of days from today; the text
written. -/
def fillCalendar (handle : Nat) (days : Int) : Action σ ι String := do
  let input ← resolve .calendar handle
  let date ← dayFromToday days
  let text ← yields (fill (← get).session.settings.dateTemplate (.ofDate date))
  writeAndFocus input text
  log (.calendarFilled handle days)
  return text

/-- Fill a calendar input with a picked date and hide the box it was picked from;
the text written. -/
def pickDate (handle : Nat) (year : Int) (month day : Nat) : Action σ ι String := do
  let input ← resolve .calendar handle
  match Date.ofSupported? year month day with
  | none => throw (.invalidDate year month day)
  | some date =>
    let running ← get
    let template := (Environment.translator running.page).dateTemplate
    let text ← yields (fill template (.ofWall date ⟨0, 0⟩))
    writeAndFocus input text
    change fun page => Fillable.hide page (running.session.settings.boxId handle)
    log (.datePicked handle)
    return text

/-- Do what a link does; the text written. -/
def follow : QuickLink → Action σ ι String
  | .clockNow handle template => fillClock handle .now template
  | .calendarDay handle days => fillCalendar handle days

end Session

end QuickFill
