import QuickFill.Fault

/-!
# Quick-fill links

The action of a link is fixed when the link is attached: it names a registered
input by its handle.  Beside the links, notes about the clock of the server are
put on a page.
-/

namespace QuickFill

/-- What following a link does. -/
inductive QuickLink where
  /-- Fill a clock input with the time of the server, in a template. -/
  | clockNow (handle : Nat) (template : String)
  /-- Fill a calendar input with the date some days from today. -/
  | calendarDay (handle : Nat) (days : Int)
  deriving DecidableEq, Repr

namespace QuickLink

def handle : QuickLink → Nat
  | .clockNow handle _ => handle
  | .calendarDay handle _ => handle

def kind : QuickLink → LinkKind
  | .clockNow .. => .clock
  | .calendarDay .. => .calendar

end QuickLink

/-- The span put after an input: its class, and its link with a label. -/
structure Shortcut where
  spanClass : String
  label : String
  action : QuickLink
  deriving DecidableEq, Repr

/-- A note put at the end of what holds an input. -/
structure Note where
  classes : List String
  text : String
  deriving DecidableEq, Repr

end QuickFill
