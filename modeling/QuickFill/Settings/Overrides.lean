import QuickFill.Log.Level
import QuickFill.Settings.Json

/-!
# Overrides

A page script may choose some of the settings and how much is logged.  What it
leaves out, gives as null, or gives as a step of zero keeps its standard value.
-/

namespace QuickFill

/-- The choices of a page script. -/
structure Overrides where
  shortcutsClass : Option String := none
  noteClass : Option String := none
  timeTemplate : Option String := none
  dateTimeTemplate : Option String := none
  boxStem : Option String := none
  defaultStep : Option Nat := none
  logLevel : Option String := none
  deriving DecidableEq, Repr

/-- The settings a page is started with, and how much it logs. -/
structure StartSettings where
  settings : Settings := Settings.standard
  verbosity : Verbosity := .warn
  deriving DecidableEq, Repr

namespace Overrides

open Json

def settings (overrides : Overrides) : Settings :=
  { Settings.standard with
    shortcutsClass := overrides.shortcutsClass.getD Settings.standard.shortcutsClass
    noteClass := overrides.noteClass.getD Settings.standard.noteClass
    timeTemplate := overrides.timeTemplate.getD Settings.standard.timeTemplate
    dateTimeTemplate := overrides.dateTimeTemplate.getD Settings.standard.dateTimeTemplate
    boxStem := overrides.boxStem.getD Settings.standard.boxStem
    defaultStep :=
      (overrides.defaultStep.filter fun step => 0 < step).getD Settings.standard.defaultStep }

/-- The verbosity chosen; warnings and errors when none or no known one is. -/
def verbosity (overrides : Overrides) : Verbosity :=
  (overrides.logLevel.bind Verbosity.read?).getD .warn

def start (overrides : Overrides) : StartSettings :=
  ⟨overrides.settings, overrides.verbosity⟩

def shape : Shape :=
  [field "shortcuts_class" (asOption asText), field "timezone_warning_class" (asOption asText),
    field "time_format" (asOption asText), field "datetime_format" (asOption asText),
    field "calendar_box_prefix" (asOption asText),
    field "default_step_seconds" (asOption Settings.asStep), field "log_level" (asOption asText)]

def ofJson (value : Json) : Decoded Overrides := do
  let fields ← asRecord shape value
  return {
    shortcutsClass := ← optional fields "shortcuts_class" (asOption asText) none
    noteClass := ← optional fields "timezone_warning_class" (asOption asText) none
    timeTemplate := ← optional fields "time_format" (asOption asText) none
    dateTimeTemplate := ← optional fields "datetime_format" (asOption asText) none
    boxStem := ← optional fields "calendar_box_prefix" (asOption asText) none
    defaultStep := ← optional fields "default_step_seconds" (asOption Settings.asStep) none
    logLevel := ← optional fields "log_level" (asOption asText) none }

/-- A property of an object that a script hands over; the last of a name counts. -/
def property? (members : List (String × Json)) (name : String) : Option Json :=
  members.reverse.lookup name

/-- A text property: absent, null or a text. -/
def textProperty? (members : List (String × Json)) (name : String) : Option (Option String) :=
  match property? members name with
  | none => some none
  | some .null => some none
  | some (.string text) => some (some text)
  | some _ => none

/-- A step property: absent, null or a number of 32 bits without fraction. -/
def stepProperty? (members : List (String × Json)) (name : String) : Option (Option Nat) :=
  match property? members name with
  | none => some none
  | some .null => some none
  | some (.number value _) =>
    match (Double.ofDecimal value).whole? with
    | some step => if 0 ≤ step ∧ step ≤ greatestNat32 then some (some step.toNat) else none
    | none => none
  | some _ => none

/-- The properties of a script value: an array has no named ones, and what is
neither object nor array has none at all. -/
def properties? : Json → Option (List (String × Json))
  | .object members _ =>
    some (members.filterMap fun member => member.1.map fun name => (name, member.2))
  | .array _ _ => some []
  | _ => none

def ofScript? (value : Json) : Option Overrides := do
  let members ← properties? value
  return {
    shortcutsClass := ← textProperty? members "shortcuts_class"
    noteClass := ← textProperty? members "timezone_warning_class"
    timeTemplate := ← textProperty? members "time_format"
    dateTimeTemplate := ← textProperty? members "datetime_format"
    boxStem := ← textProperty? members "calendar_box_prefix"
    defaultStep := ← stepProperty? members "default_step_seconds"
    logLevel := ← textProperty? members "log_level" }

end Overrides

end QuickFill
