import QuickFill.Session.Basic

/-!
# Notes about the clock of the server

When the local clock is a whole hour or more away from that of the server, a note
says by how much, once in each place that holds inputs.
-/

namespace QuickFill

def aheadSingular : String := "Note: You are %s hour ahead of server time."

def aheadPlural : String := "Note: You are %s hours ahead of server time."

def behindSingular : String := "Note: You are %s hour behind server time."

def behindPlural : String := "Note: You are %s hours behind server time."

/-- The text of the note about a gap; none when it is less than an hour. -/
def ZoneGap.noteText? (gap : ZoneGap) (translator : Translator) : Option String :=
  let hours := gap.wholeHours
  let count := hours.natAbs
  if hours = 0 then none
  else
    let template :=
      if 0 < hours then translator.ngettext aheadSingular aheadPlural count
      else translator.ngettext behindSingular behindPlural count
    some (translator.interpolate template [toString count])

namespace Session

variable {σ ι : Type} [Environment σ] [Attachable σ ι]

/-- Put the note beside an input, unless there is nothing to note or the place of
the input has the note already; whether the note was put there now. -/
def notify (input : ι) : Action σ ι Bool := do
  let running ← get
  let settings := running.session.settings
  match running.session.gap.noteText? (Environment.translator running.page) with
  | none => return false
  | some text =>
    if Attachable.hasMarker running.page input settings.noteClass then
      log .noteSkipped
      return false
    else
      let note : Note := ⟨[settings.helpClass, settings.noteClass], text⟩
      change fun page => Attachable.appendNote page input note
      log (.noteAppended running.session.gap.wholeHours)
      return true

end Session

end QuickFill
