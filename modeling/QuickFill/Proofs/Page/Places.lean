import QuickFill.Proofs.Browser.Opened
import QuickFill.Proofs.CommandLine.LastClick

/-!
# The containers of a described page

Fields that name one container stand together, and a field that names none stands in a
container of its own id.  So the containers of a described page are known by the names that
its fields give, and which of them are due a note can be read off the description.
-/

namespace QuickFill

namespace FieldFixture

/-- The name of the container that a described field stands in. -/
def place (described : FieldFixture) : String :=
  described.container.getD described.id

/-- Whether a field has the type and the class of fields that get a link. -/
def isClassified (described : FieldFixture) : Bool :=
  (described.type == "time" && described.classes.contains "vTimeField") ||
    (described.type == "date" && described.classes.contains "vDateField") ||
    (described.type == "datetime-local" && described.classes.contains "vDateTimeField")

theorem isSome_kind? (described : FieldFixture) (number : Nat) :
    ((Field.mk number described.type described.classes).kind? Settings.standard).isSome =
      described.isClassified := by
  simp only [Field.kind?, Field.hasClass, Settings.standard, isClassified]
  grind

end FieldFixture

/-- The containers that hold a field that gets a link, and no field with the class of notes. -/
def PageFixture.unmarked (fixture : PageFixture) : Finset String :=
  (fixture.fields.map FieldFixture.place).toFinset.filter fun name =>
    (∃ described ∈ fixture.fields, described.place = name ∧ described.isClassified) ∧
      ∀ described ∈ fixture.fields, described.place = name →
        "timezonewarning" ∉ described.classes

namespace Page

/-- A new field stands in the container that it names; the names of others stay. -/
theorem exists_addField (page : Page) (described : FieldFixture) :
    ∃ home, (page.addField described).inputs =
        page.inputs ++ [{ described.input with home := home }] ∧
      page.names <+: (page.addField described).names ∧
        (page.addField described).names[home]? = some described.place := by
  have appended (page : Page) (home : Nat) (input : Input) :
      ({ page with inputs := page.inputs ++ [input] }.appendNode home
        (.input page.inputs.length)).names = page.names :=
    names_appendNode ..
  rw [addField, addInputIn, ensureContainer]
  cases found : page.containerNumber? (described.container.getD described.id) with
  | some home =>
      obtain ⟨inPage, isNamed, -⟩ := List.findIdx?_eq_some_iff_getElem.mp found
      refine ⟨home, rfl, ?_, ?_⟩
      · rw [appended]
      · rw [appended, names, List.getElem?_map, List.getElem?_eq_getElem inPage, Option.map_some,
          eq_of_beq isNamed]
        rfl
  | none =>
      refine ⟨page.containers.length, rfl, ?_, ?_⟩
      · rw [appended, names, names, List.map_append]
        exact List.prefix_append _ _
      · rw [appended, names, List.map_append,
          List.getElem?_append_right (by rw [List.length_map]), List.length_map, Nat.sub_self]
        rfl

/-- Every input of a described page stands in the container that its field names. -/
theorem places_ofFixture (fixture : PageFixture) :
    (ofFixture fixture).inputs.map (fun input => (ofFixture fixture).names[input.home]?) =
      fixture.fields.map fun described => some described.place := by
  have added (rest : List FieldFixture) (earlier : List FieldFixture) (page : Page)
      (placed : page.inputs.map (fun input => page.names[input.home]?) =
        earlier.map fun described => some described.place) :
      (rest.foldl addField page).inputs.map
          (fun input => (rest.foldl addField page).names[input.home]?) =
        (earlier ++ rest).map fun described => some described.place := by
    induction rest generalizing earlier page with
    | nil =>
        rw [List.append_nil]
        exact placed
    | cons first rest ih =>
        have next := ih (earlier ++ [first]) (page.addField first)
        rw [List.append_assoc] at next
        apply next
        obtain ⟨home, inputsEq, kept, isNamed⟩ := page.exists_addField first
        have before (input : Input) (member : input ∈ page.inputs) :
            (page.addField first).names[input.home]? = page.names[input.home]? := by
          have lookup := List.mem_map_of_mem (f := fun input => page.names[input.home]?) member
          rw [placed] at lookup
          obtain ⟨described, -, named⟩ := List.mem_map.mp lookup
          obtain ⟨inNames, isName⟩ := List.getElem?_eq_some_iff.mp named.symm
          obtain ⟨more, namesEq⟩ := kept
          rw [← namesEq, List.getElem?_append_left inNames]
        rw [inputsEq, List.map_append, List.map_append, List.map_congr_left before, placed]
        exact congrArg (_ ++ [·]) isNamed
  exact added fixture.fields [] empty rfl

variable {fixture : PageFixture} {number home : Nat}

/-- The container of the input with a number, told by the field with that number. -/
theorem home_eq_some_iff :
    (ofFixture fixture).homes[number]? = some home ↔
      ∃ described, fixture.fields[number]? = some described ∧
        (ofFixture fixture).names[home]? = some described.place := by
  have placesEq := congrArg (fun places => places[number]?) (places_ofFixture fixture)
  simp only [List.getElem?_map] at placesEq
  rw [homes, List.getElem?_map]
  constructor
  · intro isHome
    obtain ⟨input, found, rfl⟩ := Option.map_eq_some_iff.mp isHome
    rw [found, Option.map_some] at placesEq
    obtain ⟨described, isField, named⟩ := Option.map_eq_some_iff.mp placesEq.symm
    exact ⟨described, isField, named.symm⟩
  · rintro ⟨described, isField, named⟩
    rw [isField, Option.map_some] at placesEq
    obtain ⟨input, found, alsoNamed⟩ := Option.map_eq_some_iff.mp placesEq
    have inNames := (List.getElem?_eq_some_iff.mp named).1
    have nodup := (tidy_ofFixture fixture).names_nodup
    rw [found, Option.map_some, ← (List.getElem?_inj inNames nodup).mp (named.trans alsoNamed.symm)]

/-- Every name that a field gives is the name of a container. -/
theorem exists_home {described : FieldFixture} (isField : described ∈ fixture.fields) :
    ∃ home : Nat, (ofFixture fixture).names[home]? = some described.place := by
  have named : some described.place ∈
      fixture.fields.map fun described => some described.place :=
    List.mem_map_of_mem isField
  rw [← places_ofFixture] at named
  obtain ⟨input, -, isHome⟩ := List.mem_map.mp named
  exact ⟨input.home, isHome⟩

/-- The input with a number has the type and classes of the field with that number. -/
theorem field?_ofFixture (fixture : PageFixture) (number : Nat) :
    Workbench.field? (ofFixture fixture) number = fixture.fields[number]?.map fun described =>
      ⟨number, described.type, described.classes⟩ := by
  have inputsEq := congrArg (fun inputs => inputs[number]?) (inputs_ofFixture fixture)
  simp only [List.getElem?_map] at inputsEq
  have fieldEq := congrArg
    (Option.map fun input => Field.mk number input.type input.classes) inputsEq
  rw [Option.map_map, Option.map_map] at fieldEq
  exact fieldEq

theorem nodeHasClass_ofFixture (name : String) (number : Nat) :
    (ofFixture fixture).nodeHasClass name (.input number) = true ↔
      ∃ described, fixture.fields[number]? = some described ∧ name ∈ described.classes := by
  have fieldEq := congrArg (Option.map Field.classes) (field?_ofFixture fixture number)
  rw [Workbench.field?, Option.map_map, Option.map_map] at fieldEq
  rw [nodeHasClass]
  cases found : (ofFixture fixture).inputs[number]? with
  | none =>
      rw [found] at fieldEq
      simp [Option.map_eq_none_iff.mp fieldEq.symm]
  | some input =>
      rw [found] at fieldEq
      obtain ⟨described, isField, classesEq⟩ := Option.map_eq_some_iff.mp fieldEq.symm
      simp only [Function.comp_apply] at classesEq
      simp [isField, classesEq]

/-- A class marks a container when a field that names the container carries it. -/
theorem isMarked_ofFixture (name : String) :
    (ofFixture fixture).isMarked home name = true ↔
      ∃ described ∈ fixture.fields, (ofFixture fixture).names[home]? = some described.place ∧
        name ∈ described.classes := by
  have formed := wellFormed_ofFixture fixture
  constructor
  · intro isMarked
    obtain ⟨container, placed, marked⟩ := (Option.any_eq_true _ _).mp isMarked
    rw [(described_ofFixture fixture).plain container (List.mem_of_getElem? placed),
      List.any_map, List.any_eq_true] at marked
    obtain ⟨number, inContainer, hasClass⟩ := marked
    have rowFound : (ofFixture fixture).rows[home]? = some container.numbers := by
      rw [rows, List.getElem?_map, placed, Option.map_some]
    obtain ⟨described, isField, named⟩ :=
      home_eq_some_iff.mp (formed.home_of_mem rowFound inContainer)
    obtain ⟨_, alsoField, inClasses⟩ := (nodeHasClass_ofFixture name number).mp hasClass
    obtain rfl := Option.some.inj (isField.symm.trans alsoField)
    exact ⟨described, List.mem_of_getElem? isField, named, inClasses⟩
  · rintro ⟨described, member, named, inClasses⟩
    obtain ⟨number, isField⟩ := List.getElem?_of_mem member
    have isHome := home_eq_some_iff.mpr ⟨described, isField, named⟩
    have inPage : number < (ofFixture fixture).inputs.length := by
      simpa [homes] using (List.getElem?_eq_some_iff.mp isHome).1
    obtain ⟨input, container, found, placed, inContainer⟩ := formed.exists_container inPage
    rw [homes, List.getElem?_map, found] at isHome
    obtain rfl := Option.some.inj isHome
    rw [isMarked, placed, Option.any_some, List.any_eq_true]
    exact ⟨.input number, inContainer,
      (nodeHasClass_ofFixture name number).mpr ⟨described, isField, inClasses⟩⟩

end Page

namespace CommandLine

open PageSession

variable {fixture : PageFixture} {now : Instant}

/-- A note is due when the clocks are an hour or more apart. -/
theorem isSome_startNote? (fixture : PageFixture) (now : Instant) :
    (startNote? (openSession fixture now)).isSome ↔
      3600 ≤ (openSession fixture now).session.gap.seconds.natAbs := by
  have differs : ¬ Settings.standard.shortcutsClass = Settings.standard.noteClass := by decide
  have settingsEq : (openSession fixture now).session.settings = Settings.standard := rfl
  have hours : (openSession fixture now).session.gap.wholeHours = 0 ↔
      (openSession fixture now).session.gap.seconds.natAbs < 3600 := by
    have quotient (seconds : Int) : (seconds.tdiv 3600).natAbs = seconds.natAbs / 3600 :=
      Int.natAbs_tdiv seconds 3600
    rw [ZoneGap.wholeHours, ← Int.natAbs_eq_zero, quotient]
    omega
  rw [startNote?, settingsEq, if_neg differs, Option.isSome_map, ZoneGap.noteText?]
  by_cases near : (openSession fixture now).session.gap.wholeHours = 0
  · simpa [near] using hours.mp near
  · simpa [near] using Nat.le_of_not_lt fun small => near (hours.mpr small)

theorem isSome_fieldKind? (fixture : PageFixture) (now : Instant) (number : Nat) :
    (fieldKind? (openSession fixture now) number).isSome ↔
      ∃ described, fixture.fields[number]? = some described ∧ described.isClassified := by
  have kindEq : fieldKind? (openSession fixture now) number =
      (Workbench.field? (Page.ofFixture fixture) number).bind fun found =>
        found.kind? Settings.standard := rfl
  rw [kindEq, Page.field?_ofFixture]
  cases fixture.fields[number]? with
  | none => simp
  | some described => simp [← described.isSome_kind? number]

/-- Whether a container holds an input that gets a link can be told from the fields that
name it. -/
theorem exists_known_iff {home : Nat} :
    (∃ number ∈ (Page.ofFixture fixture).inputOrder,
        (fieldKind? (openSession fixture now) number).isSome ∧
          (Page.ofFixture fixture).homes[number]? = some home) ↔
      ∃ described ∈ fixture.fields,
        (Page.ofFixture fixture).names[home]? = some described.place ∧ described.isClassified := by
  constructor
  · rintro ⟨number, -, isKnown, isHome⟩
    obtain ⟨described, isField, named⟩ := Page.home_eq_some_iff.mp isHome
    obtain ⟨_, alsoField, classified⟩ := (isSome_fieldKind? fixture now number).mp isKnown
    obtain rfl := Option.some.inj (isField.symm.trans alsoField)
    exact ⟨described, List.mem_of_getElem? isField, named, classified⟩
  · rintro ⟨described, member, named, classified⟩
    obtain ⟨number, isField⟩ := List.getElem?_of_mem member
    have isHome := Page.home_eq_some_iff.mpr ⟨described, isField, named⟩
    have isKnown := (isSome_fieldKind? fixture now number).mpr ⟨described, isField, classified⟩
    refine ⟨number, ?_, isKnown, isHome⟩
    rw [(Page.wellFormed_ofFixture fixture).mem_inputOrder, ← List.length_map Input.home]
    exact (List.getElem?_eq_some_iff.mp isHome).1

/-- A start puts a note in the containers that hold a field with a link and no field with
the class of notes, when the clocks are an hour or more apart. -/
theorem mem_notedHomes_iff {home : Nat} {name : String}
    (named : (Page.ofFixture fixture).names[home]? = some name) :
    home ∈ notedHomes (openSession fixture now) (Page.ofFixture fixture).inputOrder ↔
      3600 ≤ (openSession fixture now).session.gap.seconds.natAbs ∧ name ∈ fixture.unmarked := by
  have pageEq : (openSession fixture now).page.page = Page.ofFixture fixture := rfl
  have classEq : (openSession fixture now).session.settings.noteClass = "timezonewarning" := rfl
  have homeLt : home < (Page.ofFixture fixture).containers.length := by
    simpa [Page.names] using (List.getElem?_eq_some_iff.mp named).1
  rw [mem_notedHomes, pageEq, classEq, isSome_startNote?, exists_known_iff,
    Page.isMarked_ofFixture, PageFixture.unmarked, Finset.mem_filter, named, List.mem_toFinset]
  simp only [Option.some_inj, @eq_comm _ name]
  constructor
  · rintro ⟨-, far, unmarked, described, member, placed, classified⟩
    refine ⟨far, ?_, ⟨described, member, placed, classified⟩, ?_⟩
    · rw [← placed]
      exact List.mem_map_of_mem member
    · exact fun other isField otherPlaced marked => unmarked ⟨other, isField, otherPlaced, marked⟩
  · rintro ⟨far, -, classified, unmarked⟩
    refine ⟨homeLt, far, ?_, classified⟩
    rintro ⟨other, isField, otherPlaced, marked⟩
    exact unmarked other isField otherPlaced marked

/-- A start counts as many notes as the description has containers that are due one. -/
theorem card_notedHomes (fixture : PageFixture) (now : Instant) :
    (notedHomes (openSession fixture now) (Page.ofFixture fixture).inputOrder).card =
      if (openSession fixture now).session.gap.seconds.natAbs < 3600 then 0
      else fixture.unmarked.card := by
  have isName {home : Nat} (homeLt : home < (Page.ofFixture fixture).containers.length) :
      (Page.ofFixture fixture).names[home]? =
        some (((Page.ofFixture fixture).names[home]?).getD "") := by
    have inNames : home < (Page.ofFixture fixture).names.length := by
      simpa [Page.names] using homeLt
    rw [List.getElem?_eq_getElem inNames, Option.getD_some]
  split
  · next near =>
    rw [Finset.card_eq_zero, Finset.eq_empty_iff_forall_notMem]
    intro home isNoted
    have far := (isSome_startNote? fixture now).mp (mem_notedHomes.mp isNoted).2.1
    omega
  · next far =>
    -- The containers are matched with their names.
    apply Finset.card_bij fun home _ => ((Page.ofFixture fixture).names[home]?).getD ""
    · intro home member
      exact ((mem_notedHomes_iff (isName (mem_notedHomes.mp member).1)).mp member).2
    · intro home member other otherMember sameName
      have named := isName (mem_notedHomes.mp member).1
      have inNames := (List.getElem?_eq_some_iff.mp named).1
      apply (List.getElem?_inj inNames (Page.tidy_ofFixture fixture).names_nodup).mp
      rw [named, isName (mem_notedHomes.mp otherMember).1, sameName]
    · intro name member
      obtain ⟨described, isField, rfl⟩ :=
        List.mem_map.mp (List.mem_toFinset.mp (Finset.mem_filter.mp member).1)
      obtain ⟨home, named⟩ := Page.exists_home isField
      refine ⟨home, (mem_notedHomes_iff named).mpr ⟨Nat.le_of_not_lt far, member⟩, ?_⟩
      rw [named, Option.getD_some]

end CommandLine

end QuickFill
