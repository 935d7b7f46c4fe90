import QuickFill.Clock.ZoneGap
import QuickFill.Link.Json
import QuickFill.Page.Fixture
import QuickFill.Settings.Json
import QuickFill.Proofs.Json.Presented

/-!
# Records that survive being written

Notes, described pages, gaps between clocks and settings are decoded from every object that
presents their fields.
-/

namespace QuickFill

open Json

/-- Values that the members of a record may have when the record does not know them. -/
def Json.Ignored (value : Json) : Prop :=
  value.isComplete = true

/-! ### Notes -/

namespace Note

def parts (note : Note) : List Part :=
  [.exact "classes" (.ofList (note.classes.map .string)) false,
    .exact "text" (.string note.text) false]

def Presented (note : Note) : Json → Prop :=
  Presentation Ignored note.parts

theorem presented_toJson (note : Note) : note.Presented note.toJson :=
  ⟨_, rfl, .given rfl <| .given rfl .nil⟩

theorem fits (note : Note) : Fits shape note.parts :=
  .cons (fitsPart_exact (asList_texts note.classes)) <| .cons (fitsPart_exact rfl) .nil

theorem ofJson_presented {note : Note} {value : Json} (presented : note.Presented value) :
    ofJson value = .ok note := by
  obtain ⟨fields, recordEq, found⟩ :=
    presented.asRecord (fun _ complete => complete) note.fits (by decide)
  have classes : required fields "classes" (asList asText) = .ok note.classes :=
    found.required_exact (by simp [parts]) (asList_texts note.classes)
  have text : required fields "text" asText = .ok note.text :=
    found.required_text (by simp [parts])
  simp only [ofJson, recordEq, classes, text, ok_bind]
  rfl

end Note

/-! ### Described pages -/

namespace FieldFixture

def parts (described : FieldFixture) : List Part :=
  [.exact "id" (.string described.id) false, .exact "type" (.string described.type) false,
    .exact "classes" (.ofList (described.classes.map .string)) (described.classes == []),
    .exact "step" (.ofText? described.step) (described.step == none),
    .exact "value" (.string described.value) (described.value == ""),
    .exact "container" (.ofText? described.container) (described.container == none)]

def Presented (described : FieldFixture) : Json → Prop :=
  Presentation Ignored described.parts

theorem presented_toJson (described : FieldFixture) : described.Presented described.toJson :=
  ⟨_, rfl, .given rfl <| .given rfl <| .given rfl <| .given rfl <| .given rfl <| .given rfl .nil⟩

theorem fits (described : FieldFixture) : Fits shape described.parts :=
  .cons (fitsPart_exact rfl) <| .cons (fitsPart_exact rfl) <|
    .cons (fitsPart_exact (asList_texts described.classes)) <|
      .cons (fitsPart_exact (asOption_ofText? described.step)) <|
        .cons (fitsPart_exact rfl) <|
          .cons (fitsPart_exact (asOption_ofText? described.container)) .nil

theorem ofJson_presented {described : FieldFixture} {value : Json}
    (presented : described.Presented value) : ofJson value = .ok described := by
  obtain ⟨fields, recordEq, found⟩ :=
    presented.asRecord (fun _ complete => complete) described.fits (by decide)
  have id : required fields "id" asText = .ok described.id :=
    found.required_text (by simp [parts])
  have type : required fields "type" asText = .ok described.type :=
    found.required_text (by simp [parts])
  have classes : optional fields "classes" (asList asText) [] = .ok described.classes :=
    found.optional_exact (by simp [parts]) (asList_texts described.classes)
  have step : optional fields "step" (asOption asText) none = .ok described.step :=
    found.optional_exact (by simp [parts]) (asOption_ofText? described.step)
  have text : optional fields "value" asText "" = .ok described.value :=
    found.optional_text (by simp [parts])
  have container : optional fields "container" (asOption asText) none = .ok described.container :=
    found.optional_exact (by simp [parts]) (asOption_ofText? described.container)
  simp only [ofJson, recordEq, id, type, classes, step, text, container, ok_bind]
  rfl

end FieldFixture

namespace PageFixture

def parts (page : PageFixture) : List Part :=
  [.exact "admin_utc_offset" (.ofText? page.serverOffset) (page.serverOffset == none),
    { name := "fields"
      stands value := ∃ items, value = .ofList items ∧
        List.Forall₂ FieldFixture.Presented page.fields items
      isSpared := page.fields == [] },
    .exact "popups" (.ofList (page.boxes.map .string)) (page.boxes == [])]

def Presented (page : PageFixture) : Json → Prop :=
  Presentation Ignored page.parts

theorem presented_toJson (page : PageFixture) : page.Presented page.toJson := by
  have fields : List.Forall₂ FieldFixture.Presented page.fields
      (page.fields.map FieldFixture.toJson) := by
    induction page.fields with
    | nil => exact .nil
    | cons described rest ih => exact .cons described.presented_toJson ih
  exact ⟨_, rfl, .given rfl <| .given ⟨_, rfl, fields⟩ <| .given rfl .nil⟩

theorem asList_presented {page : PageFixture} {value : Json}
    (stands : ∃ items, value = .ofList items ∧
      List.Forall₂ FieldFixture.Presented page.fields items) :
    asList FieldFixture.ofJson value = .ok page.fields := by
  obtain ⟨items, rfl, presented⟩ := stands
  exact asList_ofList (presented.imp fun _ _ => FieldFixture.ofJson_presented)

theorem fits (page : PageFixture) : Fits shape page.parts :=
  .cons (fitsPart_exact (asOption_ofText? page.serverOffset)) <|
    .cons (fitsPart_field _ fun _ => asList_presented) <|
      .cons (fitsPart_exact (asList_texts page.boxes)) .nil

theorem ofJson_presented {page : PageFixture} {value : Json} (presented : page.Presented value) :
    ofJson value = .ok page := by
  obtain ⟨fields, recordEq, found⟩ :=
    presented.asRecord (fun _ complete => complete) page.fits (by decide)
  have serverOffset :
      optional fields "admin_utc_offset" (asOption asText) none = .ok page.serverOffset :=
    found.optional_exact (by simp [parts]) (asOption_ofText? page.serverOffset)
  have described : optional fields "fields" (asList FieldFixture.ofJson) [] = .ok page.fields :=
    found.optional (List.mem_cons_of_mem _ List.mem_cons_self) (fun _ => asList_presented)
      fun isSpared => (beq_iff_eq.mp isSpared).symm
  have boxes : optional fields "popups" (asList asText) [] = .ok page.boxes :=
    found.optional_exact (by simp [parts]) (asList_texts page.boxes)
  simp only [ofJson, recordEq, serverOffset, described, boxes, ok_bind]
  rfl

end PageFixture

/-! ### Gaps between clocks -/

namespace ZoneGap

def parts (gap : ZoneGap) : List Part :=
  [.exact "seconds" (.ofInt gap.seconds) false, .exact "reconciled" (.bool gap.reconciled) false]

def Presented (gap : ZoneGap) : Json → Prop :=
  Presentation Ignored gap.parts

/-- The seconds are a number of 32 bits. -/
def InWidth (gap : ZoneGap) : Prop :=
  leastInt32 ≤ gap.seconds ∧ gap.seconds ≤ greatestInt32

theorem presented_toJson (gap : ZoneGap) : gap.Presented gap.toJson :=
  ⟨_, rfl, .given rfl <| .given rfl .nil⟩

theorem ofJson_presented {gap : ZoneGap} (inWidth : gap.InWidth) {value : Json}
    (presented : gap.Presented value) : ofJson value = .ok gap := by
  have decodes := asInt_ofInt inWidth.1 inWidth.2
  have fits : Fits shape gap.parts :=
    .cons (fitsPart_exact decodes) <| .cons (fitsPart_exact rfl) .nil
  obtain ⟨fields, recordEq, found⟩ :=
    presented.asRecord (fun _ complete => complete) fits (by decide)
  have seconds : required fields "seconds" (asInt leastInt32 greatestInt32) = .ok gap.seconds :=
    found.required_exact (by simp [parts]) decodes
  have reconciled : required fields "reconciled" asBool = .ok gap.reconciled :=
    found.required_exact (List.mem_cons_of_mem _ List.mem_cons_self) rfl
  simp only [ofJson, recordEq, seconds, reconciled, ok_bind]
  rfl

end ZoneGap

/-! ### Settings -/

namespace Settings

def parts (settings : Settings) : List Part :=
  [.exact "shortcuts_class" (.string settings.shortcutsClass)
      (settings.shortcutsClass == standard.shortcutsClass),
    .exact "timezone_warning_class" (.string settings.noteClass)
      (settings.noteClass == standard.noteClass),
    .exact "help_class" (.string settings.helpClass) (settings.helpClass == standard.helpClass),
    .exact "time_field_class" (.string settings.timeFieldClass)
      (settings.timeFieldClass == standard.timeFieldClass),
    .exact "date_field_class" (.string settings.dateFieldClass)
      (settings.dateFieldClass == standard.dateFieldClass),
    .exact "datetime_field_class" (.string settings.dateTimeFieldClass)
      (settings.dateTimeFieldClass == standard.dateTimeFieldClass),
    .exact "time_format" (.string settings.timeTemplate)
      (settings.timeTemplate == standard.timeTemplate),
    .exact "datetime_format" (.string settings.dateTimeTemplate)
      (settings.dateTimeTemplate == standard.dateTimeTemplate),
    .exact "calendar_quicklink_format" (.string settings.dateTemplate)
      (settings.dateTemplate == standard.dateTemplate),
    .exact "calendar_box_prefix" (.string settings.boxStem)
      (settings.boxStem == standard.boxStem),
    .exact "default_step_seconds" (.ofNat settings.defaultStep)
      (settings.defaultStep == standard.defaultStep)]

def Presented (settings : Settings) : Json → Prop :=
  Presentation Ignored settings.parts

/-- The standard step is a number of 32 bits. -/
def InWidth (settings : Settings) : Prop :=
  settings.defaultStep ≤ greatestNat32

theorem presented_toJson (settings : Settings) : settings.Presented settings.toJson :=
  ⟨_, rfl, .given rfl <| .given rfl <| .given rfl <| .given rfl <| .given rfl <| .given rfl <|
    .given rfl <| .given rfl <| .given rfl <| .given rfl <| .given rfl .nil⟩

theorem ofJson_presented {settings : Settings} (inWidth : settings.InWidth) {value : Json}
    (presented : settings.Presented value) : ofJson value = .ok settings := by
  have decodes : asStep (.ofNat settings.defaultStep) = .ok settings.defaultStep :=
    asNat_ofNat inWidth
  have fitsText {name text absent : String} :
      FitsPart (field name asText) (.exact name (.string text) (text == absent)) :=
    fitsPart_exact rfl
  have fits : Fits shape settings.parts :=
    .cons fitsText <| .cons fitsText <| .cons fitsText <| .cons fitsText <| .cons fitsText <|
      .cons fitsText <| .cons fitsText <| .cons fitsText <| .cons fitsText <| .cons fitsText <|
        .cons (fitsPart_exact decodes) .nil
  obtain ⟨fields, recordEq, found⟩ :=
    presented.asRecord (fun _ complete => complete) fits (by decide)
  have text (name text absent : String)
      (isPart : .exact name (.string text) (text == absent) ∈ settings.parts) :
      optional fields name asText absent = .ok text :=
    found.optional_text isPart
  have shortcuts := text "shortcuts_class" settings.shortcutsClass standard.shortcutsClass
    (by simp [parts])
  have note := text "timezone_warning_class" settings.noteClass standard.noteClass
    (by simp [parts])
  have help := text "help_class" settings.helpClass standard.helpClass (by simp [parts])
  have time := text "time_field_class" settings.timeFieldClass standard.timeFieldClass
    (by simp [parts])
  have date := text "date_field_class" settings.dateFieldClass standard.dateFieldClass
    (by simp [parts])
  have dateTime := text "datetime_field_class" settings.dateTimeFieldClass
    standard.dateTimeFieldClass (by simp [parts])
  have timeTemplate := text "time_format" settings.timeTemplate standard.timeTemplate
    (by simp [parts])
  have dateTimeTemplate := text "datetime_format" settings.dateTimeTemplate
    standard.dateTimeTemplate (by simp [parts])
  have dateTemplate := text "calendar_quicklink_format" settings.dateTemplate
    standard.dateTemplate (by simp [parts])
  have boxStem := text "calendar_box_prefix" settings.boxStem standard.boxStem (by simp [parts])
  have step : optional fields "default_step_seconds" asStep standard.defaultStep =
      .ok settings.defaultStep :=
    found.optional_exact (by simp [parts]) decodes
  simp only [ofJson, recordEq, shortcuts, note, help, time, date, dateTime, timeTemplate,
    dateTimeTemplate, dateTemplate, boxStem, step, ok_bind]
  rfl

end Settings

end QuickFill
