/-!
# Settings

The class names, templates and conventions by which quick-fill links are
attached to a form page.
-/

namespace QuickFill

/-- The names, templates and conventions of the links of a page. -/
structure Settings where
  /-- The class of the span around a link. -/
  shortcutsClass : String := "datetimeshortcuts"
  /-- The class that marks a note about the clock of the server. -/
  noteClass : String := "timezonewarning"
  /-- The class that notes share with other help texts. -/
  helpClass : String := "help"
  timeFieldClass : String := "vTimeField"
  dateFieldClass : String := "vDateField"
  dateTimeFieldClass : String := "vDateTimeField"
  timeTemplate : String := "%H:%M"
  dateTimeTemplate : String := "%Y-%m-%dT%H:%M"
  /-- The template that a link fills date fields with. -/
  dateTemplate : String := "%Y-%m-%d"
  /-- What the id of a calendar box starts with. -/
  boxStem : String := "calendarbox"
  /-- The step in seconds of a field that names none. -/
  defaultStep : Nat := 60
  deriving DecidableEq, Repr

namespace Settings

def standard : Settings := {}

instance : Inhabited Settings := ⟨standard⟩

def boxId (settings : Settings) (handle : Nat) : String :=
  settings.boxStem ++ toString handle

end Settings

end QuickFill
