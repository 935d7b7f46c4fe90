import QuickFill.Session.Basic

/-!
# Attaching links

An input gets its handle first and its link next.
-/

namespace QuickFill

namespace Session

variable {σ ι : Type} [Environment σ] [Attachable σ ι] [DecidableEq ι]

def attach (kind : LinkKind) (label : String) (action : Nat → QuickLink) (input : ι) :
    Action σ ι Nat := do
  let handle ← register kind input
  let running ← get
  let shortcut : Shortcut :=
    { spanClass := running.session.settings.shortcutsClass
      label := (Environment.translator running.page).gettext label
      action := action handle }
  change fun page => Attachable.insertShortcut page input shortcut
  log (.linkAttached kind handle)
  return handle

/-- Give an input a link that fills in the time of the server in a template. -/
def attachClock (input : ι) (template : String) : Action σ ι Nat :=
  attach .clock "Now" (fun handle => .clockNow handle template) input

/-- Give an input a link that fills in the date of the server. -/
def attachCalendar (input : ι) : Action σ ι Nat :=
  attach .calendar "Today" (fun handle => .calendarDay handle 0) input

end Session

end QuickFill
