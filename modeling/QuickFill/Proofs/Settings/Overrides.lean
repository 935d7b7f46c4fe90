import QuickFill.Proofs.Json.Fields
import QuickFill.Proofs.Json.Written
import QuickFill.Settings.Overrides

/-!
# Settings that a script chooses

The choices of a script and the settings are decoded from the same objects in two ways: the one
fills in what is missing while it reads, the other when all is read.  Where an object has nothing
that only one of them knows, they come to the same settings and refuse the same objects.  What a
script gives as null, or as a step of zero, counts as not given.
-/

namespace QuickFill

open Json

/-- The settings that the fields of a record give. -/
def Settings.ofFields (fields : List (String × Json)) : Settings where
  shortcutsClass := (given asText fields "shortcuts_class").getD standard.shortcutsClass
  noteClass := (given asText fields "timezone_warning_class").getD standard.noteClass
  helpClass := (given asText fields "help_class").getD standard.helpClass
  timeFieldClass := (given asText fields "time_field_class").getD standard.timeFieldClass
  dateFieldClass := (given asText fields "date_field_class").getD standard.dateFieldClass
  dateTimeFieldClass :=
    (given asText fields "datetime_field_class").getD standard.dateTimeFieldClass
  timeTemplate := (given asText fields "time_format").getD standard.timeTemplate
  dateTimeTemplate := (given asText fields "datetime_format").getD standard.dateTimeTemplate
  dateTemplate := (given asText fields "calendar_quicklink_format").getD standard.dateTemplate
  boxStem := (given asText fields "calendar_box_prefix").getD standard.boxStem
  defaultStep := (given asStep fields "default_step_seconds").getD standard.defaultStep

theorem Settings.ofJson_object (members : List (Option String × Json)) (closed : Bool) :
    ofJson (.object members closed) = (checkMembers shape closed [] members).map ofFields := by
  have recordEq : asRecord shape (.object members closed) = checkMembers shape closed [] members :=
    rfl
  rw [ofJson, recordEq]
  cases outcome : checkMembers shape closed [] members with
  | error fault => rfl
  | ok fields =>
      obtain ⟨checked, -⟩ := checked_of_checkMembers outcome
      -- A lookup among the fields of a shape is computed, and `id` keeps its statement.
      simp (disch := exact id rfl) only [ok_bind, optional_eq_given checked]
      rfl

namespace Overrides

/-- The choices that the fields of a record give. -/
def ofFields (fields : List (String × Json)) : Overrides where
  shortcutsClass := (given (asOption asText) fields "shortcuts_class").getD none
  noteClass := (given (asOption asText) fields "timezone_warning_class").getD none
  timeTemplate := (given (asOption asText) fields "time_format").getD none
  dateTimeTemplate := (given (asOption asText) fields "datetime_format").getD none
  boxStem := (given (asOption asText) fields "calendar_box_prefix").getD none
  defaultStep := (given (asOption Settings.asStep) fields "default_step_seconds").getD none
  logLevel := (given (asOption asText) fields "log_level").getD none

theorem ofJson_object (members : List (Option String × Json)) (closed : Bool) :
    ofJson (.object members closed) = (checkMembers shape closed [] members).map ofFields := by
  have recordEq : asRecord shape (.object members closed) = checkMembers shape closed [] members :=
    rfl
  rw [ofJson, recordEq]
  cases outcome : checkMembers shape closed [] members with
  | error fault => rfl
  | ok fields =>
      obtain ⟨checked, -⟩ := checked_of_checkMembers outcome
      simp (disch := exact id rfl) only [ok_bind, optional_eq_given checked]
      rfl

variable {members : List (Option String × Json)} {fields : List (String × Json)} {name : String}
  {value : Json}

/-! ### Objects that both read -/

/-- The names that only one of the two decoders knows. -/
def unshared : List String :=
  ["help_class", "time_field_class", "date_field_class", "datetime_field_class",
    "calendar_quicklink_format", "log_level"]

/-- An object has nothing that the two decoders take in two ways. -/
structure Shared (members : List (Option String × Json)) : Prop where
  names : ∀ name ∈ unshared, ∀ value, (some name, value) ∉ members
  noNull : ∀ name ∈ shape.map Prod.fst, (some name, .null) ∉ members
  noZero : (some "default_step_seconds", .ofNat 0) ∉ members

theorem Shared.ne_null (shared : Shared members) (member : (some name, value) ∈ members)
    (inShape : name ∈ shape.map Prod.fst) : value ≠ .null := by
  rintro rfl
  exact shared.noNull name inShape member

/-- Each member of such an object passes as a choice exactly if it passes as a setting. -/
theorem Shared.check_eq (shared : Shared members) (member : (some name, value) ∈ members) :
    (shape.lookup name).map (fun check => check value) =
      (Settings.shape.lookup name).map (fun check => check value) := by
  have notUnshared : name ∉ unshared := fun isUnshared => shared.names name isUnshared value member
  have notNull := shared.ne_null member
  by_cases inShape : name ∈ shape.map Prod.fst
  · have some := notNull inShape
    simp only [shape, field, List.map_cons, List.map_nil, List.mem_cons, List.not_mem_nil,
      or_false] at inShape
    obtain rfl | rfl | rfl | rfl | rfl | rfl | rfl := inShape
    iterate 6 exact congrArg Option.some (map_asOption some fun _ => rfl)
    -- The level is the one name of a script that the settings do not have.
    exact absurd (by decide) notUnshared
  · have covered : Settings.shape.map Prod.fst ⊆ shape.map Prod.fst ++ unshared := by decide
    have other : name ∉ Settings.shape.map Prod.fst := fun isSetting =>
      (List.mem_append.mp (covered isSetting)).elim inShape notUnshared
    rw [← isSome_lookup_iff, Option.not_isSome_iff_eq_none] at inShape other
    rw [inShape, other]

/-- The choices of such an object are its settings. -/
theorem Shared.start_ofFields (shared : Shared members) {closed : Bool}
    (accepted : checkMembers Settings.shape closed [] members = .ok fields) :
    (ofFields fields).start = ⟨Settings.ofFields fields, .warn⟩ := by
  obtain ⟨-, isMember⟩ := checked_of_checkMembers accepted
  have some {key : String} (inShape : key ∈ shape.map Prod.fst) :
      fields.lookup key ≠ some .null := fun isNull => shared.noNull key inShape (isMember _ _ isNull)
  have absent {key : String} (isUnshared : key ∈ unshared) {α : Type} {decode : Json → Decoded α} :
      given decode fields key = none := by
    have noField : fields.lookup key = none := by
      cases found : fields.lookup key with
      | none => rfl
      | some value => exact absurd (isMember _ _ found) (shared.names key isUnshared value)
    unfold given
    rw [noField]
    rfl
  have step : (given Settings.asStep fields "default_step_seconds").filter (fun step => 0 < step) =
      given Settings.asStep fields "default_step_seconds" := by
    cases decoded : given Settings.asStep fields "default_step_seconds" with
    | none => rfl
    | some number =>
        have positive : 0 < number := by
          apply Nat.pos_of_ne_zero
          rintro rfl
          obtain ⟨value, found, zero⟩ := exists_of_given decoded
          exact shared.noZero (eq_ofNat_of_asNat zero ▸ isMember _ _ found)
        exact if_pos (decide_eq_true positive)
  unfold start settings verbosity ofFields Settings.ofFields
  simp (disch := exact some (by decide)) only [given_asOption]
  simp (disch := decide) only [absent]
  rw [step]
  rfl

theorem Shared.ofJson_eq (shared : Shared members) (closed : Bool) :
    (ofJson (.object members closed)).map start =
      (Settings.ofJson (.object members closed)).map fun settings => ⟨settings, .warn⟩ := by
  have same : checkMembers shape closed [] members =
      checkMembers Settings.shape closed [] members :=
    checkMembers_congr fun name value member => shared.check_eq member
  rw [ofJson_object, Settings.ofJson_object, same]
  cases outcome : checkMembers Settings.shape closed [] members with
  | error fault => rfl
  | ok fields => exact congrArg Except.ok (shared.start_ofFields outcome)

/-! ### What is not given -/

/-- A name may be left out of an object that is decoded.  A null in its place, and for the step a
zero, then stands for nothing, wherever it stands. -/
def Spares (decode : Json → Option Overrides) (members : List (Option String × Json))
    (closed : Bool) (name : String) : Prop :=
  ∃ kept, decode (.object (without name members) closed) = some kept ∧
    ∀ before after, before ++ after = without name members →
      decode (.object (before ++ (some name, .null) :: after) closed) = some kept ∧
        (name = "default_step_seconds" → ∃ zeroed,
          decode (.object (before ++ (some name, .ofNat 0) :: after) closed) = some zeroed ∧
            zeroed.start = kept.start)

section Fields

variable {before after : List (String × Json)}

theorem ofFields_insert_null (fresh : (before ++ after).lookup name = none) :
    ofFields (known shape (before ++ (name, .null) :: after)) =
      ofFields (known shape (before ++ after)) := by
  unfold ofFields
  simp (disch := decide) only [given_known, given_insert_null fresh]

theorem start_insert_zero (fresh : (before ++ after).lookup "default_step_seconds" = none) :
    (ofFields (known shape (before ++ ("default_step_seconds", .ofNat 0) :: after))).start =
      (ofFields (known shape (before ++ after))).start := by
  have zero : given (asOption Settings.asStep)
      (before ++ ("default_step_seconds", .ofNat 0) :: after) "default_step_seconds" =
        some (some 0) := by
    unfold given
    rw [lookup_insert_self fresh]
    rfl
  have nothing : given (asOption Settings.asStep) (before ++ after) "default_step_seconds" =
      none := by
    unfold given
    rw [fresh]
    rfl
  unfold start settings verbosity ofFields
  simp (disch := decide) only [given_known, given_insert_of_ne, zero, nothing]
  rfl

end Fields

theorem exists_check_null (isKnown : name ∈ shape.map Prod.fst) :
    ∃ check, shape.lookup name = some check ∧ check .null = .ok () := by
  simp only [shape, field, List.map_cons, List.map_nil, List.mem_cons, List.not_mem_nil,
    or_false] at isKnown
  obtain rfl | rfl | rfl | rfl | rfl | rfl | rfl := isKnown <;> exact ⟨_, rfl, rfl⟩

theorem ofJson_accepted {listed : List (String × Json)} (accepted : Accepted shape [] listed) :
    (ofJson (.object (listed.map fun member => (some member.1, member.2)) true)).toOption =
      some (ofFields (known shape listed)) := by
  rw [ofJson_object, accepted.checkMembers]
  rfl

theorem spares_ofJson {closed : Bool} {overrides : Overrides}
    (decoded : ofJson (.object members closed) = .ok overrides)
    (isKnown : name ∈ shape.map Prod.fst) :
    Spares (fun value => (ofJson value).toOption) members closed name := by
  rw [ofJson_object] at decoded
  cases outcome : checkMembers shape closed [] members with
  | error fault =>
      rw [outcome] at decoded
      cases decoded
  | ok fields =>
      -- What was accepted is accepted without the name, and then with it at any place.
      obtain ⟨rfl, listed, rfl, accepted, -⟩ := exists_of_checkMembers outcome
      have restAccepted := accepted.filter fun member => member.1 ≠ name
      have fresh : (listed.filter fun member => member.1 ≠ name).lookup name = none :=
        lookup_filter_self
      rw [Spares, without_map]
      refine ⟨_, ofJson_accepted restAccepted, ?_⟩
      intro before after split
      obtain ⟨front, back, listedEq, rfl, rfl⟩ := List.map_eq_append_iff.mp split.symm
      rw [listedEq] at restAccepted fresh ⊢
      have inserted (value : Json) :
          front.map (fun member => (some member.1, member.2)) ++ (some name, value) ::
              back.map (fun member => (some member.1, member.2)) =
            (front ++ (name, value) :: back).map fun member => (some member.1, member.2) := by
        rw [List.map_append, List.map_cons]
      constructor
      · obtain ⟨check, found, passes⟩ := exists_check_null isKnown
        rw [inserted, ← ofFields_insert_null fresh]
        exact ofJson_accepted (restAccepted.insert fresh found passes)
      · rintro rfl
        rw [inserted]
        exact ⟨_, ofJson_accepted (restAccepted.insert fresh rfl rfl), start_insert_zero fresh⟩

/-! ### What a script does not give -/

section Properties

variable {listed before after : List (String × Json)} {key : String}

theorem property?_without_self (name : String) (members : List (Option String × Json)) :
    property? (named (without name members)) name = none := by
  unfold property?
  rw [named_without, ← List.filter_reverse]
  exact lookup_filter_self

theorem property?_without (other : key ≠ name) (members : List (Option String × Json)) :
    property? (named (without name members)) key = property? (named members) key := by
  unfold property?
  rw [named_without, ← List.filter_reverse]
  exact lookup_filter_of_ne other

theorem property?_insert_self (fresh : property? (before ++ after) name = none) :
    property? (before ++ (name, value) :: after) name = some value := by
  unfold property? at fresh ⊢
  rw [List.reverse_append] at fresh
  rw [List.reverse_append, List.reverse_cons, List.append_assoc, List.singleton_append]
  exact lookup_insert_self fresh

theorem property?_insert_of_ne (other : key ≠ name) :
    property? (before ++ (name, value) :: after) key = property? (before ++ after) key := by
  unfold property?
  rw [List.reverse_append, List.reverse_append, List.reverse_cons, List.append_assoc,
    List.singleton_append]
  exact lookup_insert_of_ne other

/-- A choice of a script is read from one property, which may be absent or null. -/
structure ReadsProperty {α : Type}
    (read : List (String × Json) → String → Option (Option α)) : Prop where
  congr : ∀ {listed others : List (String × Json)} {key : String},
    property? listed key = property? others key → read listed key = read others key
  absent : ∀ {listed : List (String × Json)} {key : String},
    property? listed key = none → read listed key = some none
  null : ∀ {listed : List (String × Json)} {key : String},
    property? listed key = some .null → read listed key = some none

theorem readsText : ReadsProperty textProperty? where
  congr same := by rw [textProperty?, textProperty?, same]
  absent none := by rw [textProperty?, none]
  null isNull := by rw [textProperty?, isNull]

theorem readsStep : ReadsProperty stepProperty? where
  congr same := by rw [stepProperty?, stepProperty?, same]
  absent none := by rw [stepProperty?, none]
  null isNull := by rw [stepProperty?, isNull]

section Read

variable {α : Type} {read : List (String × Json) → String → Option (Option α)}

theorem ReadsProperty.insert_null (reads : ReadsProperty read)
    (fresh : property? (before ++ after) name = none) (key : String) :
    read (before ++ (name, .null) :: after) key = read (before ++ after) key := by
  by_cases same : key = name
  · subst same
    rw [reads.null (property?_insert_self fresh), reads.absent fresh]
  · exact reads.congr (property?_insert_of_ne same)

theorem ReadsProperty.exists_without (reads : ReadsProperty read) {choice : Option α}
    (chosen : read (named members) key = some choice) (name : String) :
    ∃ kept, read (named (without name members)) key = some kept := by
  by_cases same : key = name
  · subst same
    exact ⟨none, reads.absent (property?_without_self key members)⟩
  · exact ⟨choice, (reads.congr (property?_without same members)).trans chosen⟩

end Read

/-- A script object is taken property by property. -/
theorem ofScript?_eq_some_iff {closed : Bool} {overrides : Overrides} :
    ofScript? (.object members closed) = some overrides ↔
      textProperty? (named members) "shortcuts_class" = some overrides.shortcutsClass ∧
      textProperty? (named members) "timezone_warning_class" = some overrides.noteClass ∧
      textProperty? (named members) "time_format" = some overrides.timeTemplate ∧
      textProperty? (named members) "datetime_format" = some overrides.dateTimeTemplate ∧
      textProperty? (named members) "calendar_box_prefix" = some overrides.boxStem ∧
      stepProperty? (named members) "default_step_seconds" = some overrides.defaultStep ∧
      textProperty? (named members) "log_level" = some overrides.logLevel := by
  have properties : properties? (.object members closed) = some (named members) := rfl
  obtain ⟨shortcutsClass, noteClass, timeTemplate, dateTimeTemplate, boxStem, defaultStep,
    logLevel⟩ := overrides
  simp only [ofScript?, properties, Option.bind_eq_bind, Option.bind_some,
    Option.bind_eq_some_iff, Option.pure_def, Option.some.injEq, Overrides.mk.injEq]
  constructor
  · rintro ⟨_, first, _, second, _, third, _, fourth, _, fifth, _, sixth, _, seventh, rfl, rfl, rfl,
      rfl, rfl, rfl, rfl⟩
    exact ⟨first, second, third, fourth, fifth, sixth, seventh⟩
  · rintro ⟨first, second, third, fourth, fifth, sixth, seventh⟩
    exact ⟨_, first, _, second, _, third, _, fourth, _, fifth, _, sixth, _, seventh, rfl, rfl, rfl,
      rfl, rfl, rfl, rfl⟩

end Properties

theorem spares_ofScript? {closed : Bool} {overrides : Overrides}
    (decoded : ofScript? (.object members closed) = some overrides) (name : String) :
    Spares ofScript? members closed name := by
  obtain ⟨first, second, third, fourth, fifth, sixth, seventh⟩ := ofScript?_eq_some_iff.mp decoded
  obtain ⟨shortcutsClass, first⟩ := readsText.exists_without first name
  obtain ⟨noteClass, second⟩ := readsText.exists_without second name
  obtain ⟨timeTemplate, third⟩ := readsText.exists_without third name
  obtain ⟨dateTimeTemplate, fourth⟩ := readsText.exists_without fourth name
  obtain ⟨boxStem, fifth⟩ := readsText.exists_without fifth name
  obtain ⟨defaultStep, sixth⟩ := readsStep.exists_without sixth name
  obtain ⟨logLevel, seventh⟩ := readsText.exists_without seventh name
  refine ⟨⟨shortcutsClass, noteClass, timeTemplate, dateTimeTemplate, boxStem, defaultStep,
    logLevel⟩, ofScript?_eq_some_iff.mpr ⟨first, second, third, fourth, fifth, sixth, seventh⟩, ?_⟩
  intro before after split
  have fresh := property?_without_self name members
  have inserted (value : Json) : named (before ++ (some name, value) :: after) =
      named before ++ (name, value) :: named after := List.filterMap_append
  have appended : named (before ++ after) = named before ++ named after := List.filterMap_append
  rw [← split, appended] at first second third fourth fifth sixth seventh fresh
  constructor
  · rw [ofScript?_eq_some_iff, inserted]
    simp only [readsText.insert_null fresh, readsStep.insert_null fresh]
    exact ⟨first, second, third, fourth, fifth, sixth, seventh⟩
  · rintro rfl
    have zero : stepProperty? (named before ++ ("default_step_seconds", .ofNat 0) :: named after)
        "default_step_seconds" = some (some 0) := by
      rw [stepProperty?, property?_insert_self fresh]
      decide
    have kept {key : String} (other : key ≠ "default_step_seconds") :
        textProperty? (named before ++ ("default_step_seconds", .ofNat 0) :: named after) key =
          textProperty? (named before ++ named after) key :=
      readsText.congr (property?_insert_of_ne other)
    obtain rfl : none = defaultStep := Option.some.inj ((readsStep.absent fresh).symm.trans sixth)
    refine ⟨⟨shortcutsClass, noteClass, timeTemplate, dateTimeTemplate, boxStem, some 0,
      logLevel⟩, ?_, rfl⟩
    rw [ofScript?_eq_some_iff, inserted]
    simp (disch := decide) only [kept]
    exact ⟨first, second, third, fourth, fifth, zero, seventh⟩

/-! ### The two ways -/

/-- Objects that have nothing which only one of the decoders knows are refused by both or none, and
come to the same settings.  A name may be left out, and a null or a step of zero leaves it out as
well.  What a script has no names for keeps its standard value. -/
theorem overrides_agree :
    (∀ members closed, Shared members →
      (ofJson (.object members closed)).map start =
        (Settings.ofJson (.object members closed)).map fun settings => ⟨settings, .warn⟩) ∧
    (∀ text members closed, (Json.read text.toList).1 = .object members closed →
      Shared members →
        (decodeText ofJson text).map start =
          (decodeText Settings.ofJson text).map fun settings => ⟨settings, .warn⟩) ∧
    (∀ members closed overrides, ofJson (.object members closed) = .ok overrides →
      ∀ name ∈ shape.map Prod.fst,
        Spares (fun value => (ofJson value).toOption) members closed name) ∧
    (∀ members closed overrides, ofScript? (.object members closed) = some overrides →
      ∀ name, Spares ofScript? members closed name) ∧
    ∀ overrides : Overrides,
      overrides.settings.helpClass = Settings.standard.helpClass ∧
        overrides.settings.timeFieldClass = Settings.standard.timeFieldClass ∧
        overrides.settings.dateFieldClass = Settings.standard.dateFieldClass ∧
        overrides.settings.dateTimeFieldClass = Settings.standard.dateTimeFieldClass ∧
        overrides.settings.dateTemplate = Settings.standard.dateTemplate := by
  refine ⟨fun members closed shared => shared.ofJson_eq closed, ?_,
    fun _ _ _ decoded name isKnown => spares_ofJson decoded isKnown,
    fun _ _ _ decoded name => spares_ofScript? decoded name,
    fun _ => ⟨rfl, rfl, rfl, rfl, rfl⟩⟩
  intro text members closed isRead shared
  apply decodeText_congr
  rw [isRead]
  exact shared.ofJson_eq closed

/-- A script that chooses a template and a step, and says something else besides. -/
def roomyHours : List (Option String × Json) :=
  [(some "time_format", .string "%H.%M"), (some "remark", .array [] true),
    (some "default_step_seconds", .ofNat 1800)]

theorem shared_roomyHours : Shared roomyHours where
  names := by
    intro name isUnshared value member
    have listed : some name ∈ roomyHours.map Prod.fst := List.mem_map_of_mem member
    simp only [roomyHours, List.map_cons, List.map_nil, List.mem_cons, List.not_mem_nil, or_false,
      Option.some.injEq] at listed
    obtain rfl | rfl | rfl := listed <;> exact absurd isUnshared (by decide)
  noNull := by
    intro name _ member
    simp [roomyHours, ofNat, ofInt] at member
  noZero := by
    intro member
    simp [roomyHours, ofNat, ofInt, Decimal.ofInt] at member

/-- The choices are read from a text as settings, and each of them can be left out. -/
theorem overrides_agree_roomyHours :
    (decodeText ofJson (writeText (.object roomyHours true))).map start =
        .ok ⟨{ Settings.standard with timeTemplate := "%H.%M", defaultStep := 1800 }, .warn⟩ ∧
      Spares (fun value => (ofJson value).toOption) roomyHours true "default_step_seconds" ∧
        Spares ofScript? roomyHours true "time_format" := by
  obtain ⟨-, agreeText, spares, sparesScript, -⟩ := overrides_agree
  have isRead : Json.read (writeText (.object roomyHours true)).toList =
      (.object roomyHours true, true) := by
    rw [writeText, String.toList_ofList]
    exact read_write (by decide +kernel)
  have decoded : decodeText Settings.ofJson (writeText (.object roomyHours true)) =
      .ok { Settings.standard with timeTemplate := "%H.%M", defaultStep := 1800 } := by
    rw [decodeText, isRead]
    rfl
  have agreed := agreeText _ roomyHours true (congrArg Prod.fst isRead) shared_roomyHours
  refine ⟨?_, spares _ _ _ rfl _ (by decide), sparesScript _ _ _ rfl _⟩
  rw [agreed, decoded]
  rfl

end Overrides

end QuickFill
