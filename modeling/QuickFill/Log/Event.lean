import QuickFill.Fault
import QuickFill.Log.Level

/-!
# Log events

What happens to a page is logged as events, each with the level, the part of the
library it comes from and the line that is written for it.
-/

namespace QuickFill

structure StartReport where
  scanned : Nat := 0
  clockInputs : Nat := 0
  calendarInputs : Nat := 0
  notes : Nat := 0
  deriving DecidableEq, Repr

inductive LogEvent where
  | gapTaken (reconciled : Bool) (seconds : Int)
  | startRefused
  | startBegun
  | startDone (report : StartReport)
  | linkAttached (kind : LinkKind) (handle : Nat)
  | noteSkipped
  | noteAppended (hours : Int)
  | handleUnknown (kind : LinkKind) (handle : Nat)
  | clockFilled (handle step : Nat)
  | calendarFilled (handle : Nat) (days : Int)
  | datePicked (handle : Nat)
  | linkBusy
  /-- A link was clicked before a session was bound to the links of its page. -/
  | linkUnbound (handle : Nat)
  | linkFailed (fault : Fault)
  deriving DecidableEq, Repr

namespace LogEvent

def level : LogEvent → LogLevel
  | .startRefused | .handleUnknown .. | .linkBusy | .linkUnbound _ | .linkFailed _ => .warn
  | .linkAttached .. | .noteSkipped | .noteAppended _ => .debug
  | _ => .info

/-- The part of the library that an event comes from. -/
def origin : LogEvent → String
  | .linkAttached .. => "shortcuts_core::injector"
  | .noteSkipped | .noteAppended _ => "shortcuts_core::warning"
  | .linkBusy | .linkFailed _ => "shortcuts_ui::wasm_api"
  | .linkUnbound _ => "shortcuts_ui::dom"
  | _ => "shortcuts_core::orchestrator"

def line : LogEvent → String
  | .gapTaken reconciled seconds =>
    "event=offset_computed module=orchestrator reconciled=" ++ toString reconciled ++
      " offset_seconds=" ++ toString seconds
  | .startRefused =>
    "event=init module=orchestrator status=rejected reason=already_initialized"
  | .startBegun => "event=init module=orchestrator status=start"
  | .startDone report =>
    "event=init module=orchestrator status=ok scanned=" ++ toString report.scanned ++
      " clock=" ++ toString report.clockInputs ++ " calendar=" ++
      toString report.calendarInputs ++ " warnings=" ++ toString report.notes
  | .linkAttached kind handle =>
    "event=attach_shortcut module=injector kind=" ++ kind.name ++ " handle=" ++ toString handle
  | .noteSkipped => "event=timezone_warning module=warning status=skipped reason=present"
  | .noteAppended hours =>
    "event=timezone_warning module=warning status=inserted hours=" ++ toString hours
  | .handleUnknown kind handle =>
    "event=resolve module=orchestrator status=error kind=" ++ kind.name ++ " handle=" ++
      toString handle
  | .clockFilled handle step =>
    "event=quicklink module=orchestrator kind=clock handle=" ++ toString handle ++ " step=" ++
      toString step
  | .calendarFilled handle days =>
    "event=quicklink module=orchestrator kind=calendar handle=" ++ toString handle ++
      " day_offset=" ++ toString days
  | .datePicked handle => "event=calendar_pick module=orchestrator handle=" ++ toString handle
  | .linkBusy => "event=quicklink module=ui status=skipped reason=busy"
  | .linkUnbound handle =>
    "event=quicklink module=dom status=skipped reason=unbound handle=" ++ toString handle
  | .linkFailed fault => "event=quicklink module=ui status=error error=" ++ fault.message

end LogEvent

end QuickFill
