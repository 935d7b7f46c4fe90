import QuickFill.Json.Decode
import QuickFill.Settings.Basic

/-!
# Settings as JSON

Every member of the settings may be left out and then keeps its standard value.
-/

namespace QuickFill

namespace Settings

open Json

def asStep : Json → Decoded Nat := asNat greatestNat32

def shape : Shape :=
  [field "shortcuts_class" asText, field "timezone_warning_class" asText,
    field "help_class" asText, field "time_field_class" asText, field "date_field_class" asText,
    field "datetime_field_class" asText, field "time_format" asText,
    field "datetime_format" asText, field "calendar_quicklink_format" asText,
    field "calendar_box_prefix" asText, field "default_step_seconds" asStep]

def ofJson (value : Json) : Decoded Settings := do
  let fields ← asRecord shape value
  return {
    shortcutsClass := ← optional fields "shortcuts_class" asText standard.shortcutsClass
    noteClass := ← optional fields "timezone_warning_class" asText standard.noteClass
    helpClass := ← optional fields "help_class" asText standard.helpClass
    timeFieldClass := ← optional fields "time_field_class" asText standard.timeFieldClass
    dateFieldClass := ← optional fields "date_field_class" asText standard.dateFieldClass
    dateTimeFieldClass :=
      ← optional fields "datetime_field_class" asText standard.dateTimeFieldClass
    timeTemplate := ← optional fields "time_format" asText standard.timeTemplate
    dateTimeTemplate := ← optional fields "datetime_format" asText standard.dateTimeTemplate
    dateTemplate := ← optional fields "calendar_quicklink_format" asText standard.dateTemplate
    boxStem := ← optional fields "calendar_box_prefix" asText standard.boxStem
    defaultStep := ← optional fields "default_step_seconds" asStep standard.defaultStep }

def toJson (settings : Settings) : Json :=
  .ofMembers [
    ("shortcuts_class", .string settings.shortcutsClass),
    ("timezone_warning_class", .string settings.noteClass),
    ("help_class", .string settings.helpClass),
    ("time_field_class", .string settings.timeFieldClass),
    ("date_field_class", .string settings.dateFieldClass),
    ("datetime_field_class", .string settings.dateTimeFieldClass),
    ("time_format", .string settings.timeTemplate),
    ("datetime_format", .string settings.dateTimeTemplate),
    ("calendar_quicklink_format", .string settings.dateTemplate),
    ("calendar_box_prefix", .string settings.boxStem),
    ("default_step_seconds", .ofNat settings.defaultStep)]

end Settings

end QuickFill
