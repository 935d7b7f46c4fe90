import QuickFill.Session.Fill

/-!
# Requests to a session

What scripts and links ask of a session can be held as a request before the
session is free to serve it.
-/

namespace QuickFill

/-- Something asked of a session. -/
inductive SessionRequest where
  /-- Fill a clock input, in a template or in the one for time fields. -/
  | clock (handle : Nat) (value : ClockValue) (template : Option String)
  | today (handle : Nat) (days : Int)
  | pick (handle : Nat) (year : Int) (month day : Nat)
  | boxId (handle : Nat)
  | follow (link : QuickLink)
  deriving DecidableEq, Repr

/-- What a script calls on the session, with the numbers that it gives. -/
inductive ScriptCall where
  | clock (handle : Nat) (value : Int) (template : Option String)
  | today (handle : Nat) (days : Int)
  | pick (handle : Nat) (year : Int) (month day : Nat)
  | boxId (handle : Nat)
  deriving DecidableEq, Repr

/-- The request that a call amounts to; the number of an hour is checked first. -/
def ScriptCall.request : ScriptCall → Except Fault SessionRequest
  | .clock handle value template =>
    (ClockValue.ofSentinel value).map fun value => .clock handle value template
  | .today handle days => .ok (.today handle days)
  | .pick handle year month day => .ok (.pick handle year month day)
  | .boxId handle => .ok (.boxId handle)

namespace Session

variable {σ ι : Type} [Environment σ] [Fillable σ ι]

def serve : SessionRequest → Action σ ι String
  | .clock handle value template => do
    let template := template.getD (← get).session.settings.timeTemplate
    fillClock handle value template
  | .today handle days => fillCalendar handle days
  | .pick handle year month day => pickDate handle year month day
  | .boxId handle => do return (← get).session.settings.boxId handle
  | .follow link => Session.follow link

end Session

end QuickFill
