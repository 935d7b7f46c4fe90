import QuickFill.Proofs.Browser.Tuning
import QuickFill.Proofs.Settings.Overrides
import Mathlib.Data.List.Forall2

/-!
# Pages that differ in levels

Scripts name a level among the choices of a boot.  Events that are the same but for such
levels keep pages the same but for what is shown on them, and for the levels chosen for later:
every event is answered alike, and there is one list of lines to tell of it, each while one
and the same of the levels that were chosen is in force.
-/

namespace QuickFill

/-- Whether a script names a level by a text, or by null, wherever it names one. -/
def NamesLevel (members : List (Option String × Json)) : Prop :=
  ∀ value, (some "log_level", value) ∈ members → value = .null ∨ ∃ text, value = .string text

/-- The members that have nothing to do with the level. -/
def apartFromLevel (members : List (Option String × Json)) : List (Option String × Json) :=
  members.filter fun member => member.1 ≠ some "log_level"

/-- Choices of a script that are the same but for the level that they name. -/
inductive SameChoices : Option Json → Option Json → Prop
  | same (choices : Option Json) : SameChoices choices choices
  | level {members others : List (Option String × Json)} {closed : Bool} :
    NamesLevel members → NamesLevel others → apartFromLevel members = apartFromLevel others →
      SameChoices (some (.object members closed)) (some (.object others closed))

/-- Events that are the same but for the levels in their choices. -/
inductive SameButLevel : PageEvent → PageEvent → Prop
  | same (event : PageEvent) : SameButLevel event event
  | boot {choices others : Option Json} : SameChoices choices others →
    SameButLevel (.boot choices) (.boot others)
  | install {choices others : Option Json} : SameChoices choices others →
    SameButLevel (.install choices) (.install others)
  | listen (id : String) {events others : List PageEvent} :
    List.Forall₂ SameButLevel events others →
      SameButLevel (.listen id events) (.listen id others)

/-- What listens to the same elements with the same events, but for levels. -/
def SameListeners (listeners others : List (Nat × List PageEvent)) : Prop :=
  List.Forall₂ (fun listener other => other.1 = listener.1 ∧
    List.Forall₂ SameButLevel listener.2 other.2) listeners others

/-- The level that an event chooses, if it is a boot that can be read. -/
def PageEvent.level? : PageEvent → Option Verbosity
  | .boot choices => (StartSettings.ofChoices choices).toOption.map StartSettings.verbosity
  | .install choices => (StartSettings.ofChoices choices).toOption.map StartSettings.verbosity
  | _ => none

/-- The lines that a console shows, when each is told while one of some levels is in force. -/
def told (levels : List Verbosity) (course : List (Nat × ConsoleLine)) : List ConsoleLine :=
  (course.filter fun entry => levels[entry.1]?.any fun level => level.shows entry.2).map Prod.snd

/-! ### Choices -/

section Choices

open Json (named)

variable {members others : List (Option String × Json)}

theorem mem_named {name : String} {value : Json} :
    (name, value) ∈ named members ↔ (some name, value) ∈ members := by
  simp only [named, List.mem_filterMap, Option.map_eq_some_iff, Prod.mk.injEq]
  constructor
  · rintro ⟨⟨key, found⟩, member, other, keyEq, rfl, rfl⟩
    obtain rfl : key = some other := keyEq
    exact member
  · exact fun member => ⟨_, member, name, rfl, rfl, rfl⟩

/-- No property but the level depends on the members with its name. -/
theorem property?_apartFromLevel {name : String} (other : name ≠ "log_level") :
    Overrides.property? (named (apartFromLevel members)) name =
      Overrides.property? (named members) name :=
  Overrides.property?_without other members

theorem textProperty?_level (names : NamesLevel members) :
    ∃ level, Overrides.textProperty? (named members) "log_level" = some level := by
  rw [Overrides.textProperty?]
  cases found : Overrides.property? (named members) "log_level" with
  | none => exact ⟨none, rfl⟩
  | some value =>
      obtain ⟨before, after, reversed, -⟩ := List.lookup_eq_some_iff.mp found
      have member : ("log_level", value) ∈ (named members).reverse := by
        rw [reversed]
        simp
      rcases names value (mem_named.mp (List.mem_reverse.mp member)) with rfl | ⟨text, rfl⟩
      · exact ⟨none, rfl⟩
      · exact ⟨some text, rfl⟩

open Overrides in
/-- The choices among the members of an object, the level apart. -/
def levelless? (members : List (String × Json)) : Option Overrides := do
  return {
    shortcutsClass := ← textProperty? members "shortcuts_class"
    noteClass := ← textProperty? members "timezone_warning_class"
    timeTemplate := ← textProperty? members "time_format"
    dateTimeTemplate := ← textProperty? members "datetime_format"
    boxStem := ← textProperty? members "calendar_box_prefix"
    defaultStep := ← stepProperty? members "default_step_seconds" }

theorem ofScript?_object (members : List (Option String × Json)) (closed : Bool) :
    Overrides.ofScript? (.object members closed) = do
      let overrides ← levelless? (named members)
      let level ← Overrides.textProperty? (named members) "log_level"
      return { overrides with logLevel := level } := by
  have properties : Overrides.properties? (.object members closed) = some (named members) := rfl
  simp only [Overrides.ofScript?, properties, levelless?, bind_assoc, pure_bind]
  rfl

theorem levelless?_eq (apart : apartFromLevel members = apartFromLevel others) :
    levelless? (named others) = levelless? (named members) := by
  have same {name : String} (other : name ≠ "log_level") :
      Overrides.property? (named others) name = Overrides.property? (named members) name := by
    rw [← property?_apartFromLevel other, ← apart, property?_apartFromLevel other]
  have sameText {name : String} (other : name ≠ "log_level") :
      Overrides.textProperty? (named others) name =
        Overrides.textProperty? (named members) name := by
    rw [Overrides.textProperty?, Overrides.textProperty?, same other]
  have sameStep {name : String} (other : name ≠ "log_level") :
      Overrides.stepProperty? (named others) name =
        Overrides.stepProperty? (named members) name := by
    rw [Overrides.stepProperty?, Overrides.stepProperty?, same other]
  rw [levelless?, levelless?, sameText (by simp), sameText (by simp), sameText (by simp),
    sameText (by simp), sameText (by simp), sameStep (by simp)]

/-- Choices that are the same but for the level choose the same settings, or are refused for
the same fault. -/
theorem SameChoices.ofChoices {choices others : Option Json} (same : SameChoices choices others) :
    (∃ fault, StartSettings.ofChoices choices = .error fault ∧
        StartSettings.ofChoices others = .error fault) ∨
      ∃ start other, StartSettings.ofChoices choices = .ok start ∧
        StartSettings.ofChoices others = .ok other ∧ other.settings = start.settings := by
  cases same with
  | same =>
      cases StartSettings.ofChoices choices with
      | error fault => exact Or.inl ⟨fault, rfl, rfl⟩
      | ok start => exact Or.inr ⟨start, start, rfl, rfl, rfl⟩
  | @level members others closed names otherNames apart =>
      obtain ⟨level, levelEq⟩ := textProperty?_level names
      obtain ⟨other, otherEq⟩ := textProperty?_level otherNames
      have levellessEq := levelless?_eq apart
      rw [StartSettings.ofChoices, StartSettings.ofChoices, ofScript?_object, ofScript?_object,
        levelEq, otherEq, levellessEq]
      · cases levelless? (named members) with
        | none => exact Or.inl ⟨_, rfl, rfl⟩
        | some overrides => exact Or.inr ⟨_, _, rfl, rfl, rfl⟩
      · rintro ⟨⟩
      · rintro ⟨⟩

end Choices

end QuickFill
