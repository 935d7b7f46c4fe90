import QuickFill.Session.Attach
import QuickFill.Session.Notice

/-!
# Starting a session

Starting searches the page once, from its first field to its last: each field of
a known kind gets its link and, where one is due, a note.  A page cannot be
started twice.
-/

namespace QuickFill

namespace Session

variable {σ ι : Type} [Environment σ] [Attachable σ ι] [DecidableEq ι]

def attachKind (input : ι) : FieldKind → Action σ ι Nat
  | .time => do attachClock input (← get).session.settings.timeTemplate
  | .dateTime => do attachClock input (← get).session.settings.dateTimeTemplate
  | .date => attachCalendar input

def count (report : StartReport) : FieldKind → StartReport
  | .date => { report with calendarInputs := report.calendarInputs + 1 }
  | _ => { report with clockInputs := report.clockInputs + 1 }

def startField (report : StartReport) (found : Field ι) : Action σ ι StartReport := do
  let report := { report with scanned := report.scanned + 1 }
  match found.kind? (← get).session.settings with
  | none => return report
  | some kind =>
    let _ ← attachKind found.input kind
    let report := count report kind
    if ← notify found.input then return { report with notes := report.notes + 1 }
    else return report

def start : Action σ ι StartReport := do
  if (← get).session.started then
    log .startRefused
    throw .alreadyStarted
  else
    modify fun running => { running with session := { running.session with started := true } }
    log .startBegun
    let report ← (Attachable.fields (← get).page).foldlM startField {}
    log (.startDone report)
    return report

end Session

end QuickFill
