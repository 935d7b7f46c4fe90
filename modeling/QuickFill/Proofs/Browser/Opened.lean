import QuickFill.Proofs.Browser.Bridge

/-!
# Described pages opened in a browser

A described page can be built in memory, and written as a document that is opened in a
browser.  The two mirror each other before a session has done anything to them.
-/

namespace QuickFill

/-! ### Described pages in memory -/

/-- A page in memory as fields describe it: it holds inputs only, each as one of the
fields says, none of which has the focus, and nothing is hidden. -/
structure Page.Described (fields : List FieldFixture) (page : Page) : Prop where
  plain : ∀ container ∈ page.containers, container.nodes = container.numbers.map .input
  input_eq : ∀ input ∈ page.inputs, ∃ described ∈ fields, input.id = described.id ∧
    input.type = described.type ∧ input.classes = described.classes
  hidden_eq : page.hidden = []
  focused_eq : page.focused = none

namespace Page

variable {fields : List FieldFixture} {page : Page} {described : FieldFixture}

theorem Described.pushInput (isDescribed : page.Described fields) {input : Input}
    (member : described ∈ fields) (inputEq : input.id = described.id ∧
      input.type = described.type ∧ input.classes = described.classes) :
    (page.pushInput input).Described fields := by
  refine ⟨?_, ?_, isDescribed.hidden_eq, isDescribed.focused_eq⟩
  · intro container isContainer
    obtain ⟨home, placed⟩ := List.getElem?_of_mem isContainer
    rw [Page.pushInput, appendNode, List.getElem?_modify] at placed
    obtain ⟨before, found, rfl⟩ := Option.map_eq_some_iff.mp placed
    have plainBefore := isDescribed.plain before (List.mem_of_getElem? found)
    by_cases same : input.home = home
    · have numbersEq : ({ before with nodes := before.nodes ++ [.input page.inputs.length] } :
          Container).numbers = before.numbers ++ [page.inputs.length] := by
        rw [Container.numbers, List.filterMap_append]
        rfl
      rw [if_pos same, numbersEq, List.map_append, ← plainBefore]
      rfl
    · rw [if_neg same]
      exact plainBefore
  · intro other isInput
    rcases List.mem_append.mp isInput with old | new
    · exact isDescribed.input_eq other old
    · obtain rfl := List.mem_singleton.mp new
      exact ⟨described, member, inputEq⟩

theorem Described.pushContainer (isDescribed : page.Described fields) (name : String) :
    { page with containers := page.containers ++ [Container.mk name []] }.Described fields := by
  refine ⟨?_, isDescribed.input_eq, isDescribed.hidden_eq, isDescribed.focused_eq⟩
  intro container isContainer
  rcases List.mem_append.mp isContainer with old | new
  · exact isDescribed.plain container old
  · obtain rfl := List.mem_singleton.mp new
    rfl

theorem Described.addField (isDescribed : page.Described fields) (member : described ∈ fields) :
    (page.addField described).Described fields := by
  rw [Page.addField, Page.addInputIn, ensureContainer]
  cases page.containerNumber? (described.container.getD described.id) with
  | some home => exact isDescribed.pushInput member ⟨rfl, rfl, rfl⟩
  | none => exact (isDescribed.pushContainer _).pushInput member ⟨rfl, rfl, rfl⟩

theorem described_ofFixture (fixture : PageFixture) :
    (ofFixture fixture).Described fixture.fields := by
  have added (rest : List FieldFixture) (some : ∀ described ∈ rest, described ∈ fixture.fields)
      (page : Page) (isDescribed : page.Described fixture.fields) :
      (rest.foldl Page.addField page).Described fixture.fields := by
    induction rest generalizing page with
    | nil => exact isDescribed
    | cons first others ih =>
        rw [List.foldl_cons]
        exact ih (fun described member => some described (List.mem_cons_of_mem _ member)) _
          (isDescribed.addField (some first List.mem_cons_self))
  have nothing : empty.Described fixture.fields := by
    refine ⟨?_, ?_, rfl, rfl⟩
    · intro container member
      cases member
    · intro input member
      cases member
  obtain ⟨plain, inputEq, hiddenEq, focusedEq⟩ := added fixture.fields (fun _ member => member)
    empty nothing
  exact ⟨plain, inputEq, hiddenEq, focusedEq⟩

end Page

/-! ### Described pages as documents -/

namespace PageFixture

def document (fixture : PageFixture) : Forest :=
  (Page.ofFixture fixture).form (fun _ => 0) fixture.serverOffset
    (fixture.boxes.map fun id => (id, false))

/-- What is asked of a described page for its document to hold the same: types that a
browser knows, classes that can be put on elements, inputs whose ids no calendar box has,
and classes of links and notes that are identifiers. -/
structure Suits (settings : Settings) (fixture : PageFixture) : Prop where
  type_mem : ∀ described ∈ fixture.fields, described.type ∈ Element.inputTypes
  classes_tokens : ∀ described ∈ fixture.fields, ∀ name ∈ described.classes, ClassName.IsToken name
  id_ne : ∀ described ∈ fixture.fields, ∀ handle, described.id ≠ settings.boxId handle
  shortcutsClass : ClassName.isIdentifier settings.shortcutsClass.toList = true
  noteClass : ClassName.isIdentifier settings.noteClass.toList = true

/-- What stays the same of a described page in memory and in a browser. -/
def scene (fixture : PageFixture) (settings : Settings) : Scene where
  settings := settings
  rows := (Page.ofFixture fixture).rows
  serverOffset := fixture.serverOffset
  ids := fixture.boxes

/-- A described page in memory, with the clock of a browser and the English texts. -/
def bench (fixture : PageFixture) (reading : BrowserReading) : Workbench where
  page := .ofFixture fixture
  clock := reading.instant
  translator := .english

variable {fixture : PageFixture} {settings : Settings} {reading : BrowserReading}

theorem Suits.input (suits : fixture.Suits settings) {input : Input}
    (member : input ∈ (Page.ofFixture fixture).inputs) : input.Suits settings := by
  obtain ⟨described, isField, idEq, typeEq, classesEq⟩ :=
    (Page.described_ofFixture fixture).input_eq input member
  constructor
  · rw [typeEq]
    exact suits.type_mem described isField
  · rw [classesEq]
    exact suits.classes_tokens described isField
  · rw [idEq]
    exact suits.id_ne described isField

/-- The elements of the document get the keys of their places. -/
theorem number_document (fixture : PageFixture) (settings : Settings) :
    fixture.document.number 0 =
      ((Page.ofFixture fixture).form (fixture.scene settings).key fixture.serverOffset
        (fixture.boxes.map fun id => (id, false)), (fixture.scene settings).bound) := by
  have nodup : (Page.ofFixture fixture).rows.flatten.Nodup :=
    (Page.wellFormed_ofFixture fixture).order_perm.nodup_iff.mpr List.nodup_range
  have lengthEq : (fixture.boxes.map fun id => (id, false)).length = fixture.boxes.length :=
    List.length_map _
  rw [document, Page.form, Page.form, lengthEq]
  apply Forest.number_layout nodup
  · intro place
    cases place with
    | root => rfl
    | body => rfl
    | container home => rfl
    | input number =>
        rw [Page.formElement, Page.formElement]
        cases (Page.ofFixture fixture).inputs[number]? <;> rfl
    | box number =>
        rw [Page.formElement, Page.formElement]
        cases (fixture.boxes.map fun id => (id, false))[number]? <;> rfl
  · intro place
    exact Page.key_formElement place

/-- A described page in memory and in a browser mirror each other. -/
theorem Suits.mirrored (suits : fixture.Suits settings) (reading : BrowserReading)
    (selectors : SelectorReader) :
    Mirrored (fixture.scene settings) (.ofFixture fixture)
      (fixture.boxes.map fun id => (id, false)) (fun _ => []) (fun _ => [])
      (fixture.bench reading) (Browser.ofDocument fixture.document reading selectors) := by
  have isDescribed := Page.described_ofFixture fixture
  have numbered := number_document fixture settings
  have nextKeyEq : (Browser.ofDocument fixture.document reading selectors).nextKey =
      (fixture.scene settings).bound := congrArg Prod.snd numbered
  refine {
    formed := Page.wellFormed_ofFixture fixture
    plain := isDescribed.plain
    rows_eq := rfl
    suits := fun _ member => suits.input member
    ids_eq := ?_
    boxes_mem := fun _ => mem_sortedNames
    hidden_mem := ?_
    page_eq := (Page.decorated_nothing _).symm
    document_eq := ?_
    fresh := Browser.Fresh.nothing _
    bound_le := Nat.le_of_eq nextKeyEq.symm
    spans_class := fun _ member => (List.not_mem_nil member).elim
    blocks_class := fun _ member => (List.not_mem_nil member).elim
    spans_only := fun _ _ => rfl
    blocks_only := fun _ _ => rfl
    active_eq := ?_
    clock_eq := rfl
    english := rfl
    functions_eq := rfl
    removed_eq := rfl
    listeners_eq := rfl
    object_eq := rfl
    clicked_eq := rfl }
  · rw [List.map_map]
    exact List.map_id _
  · intro id
    rw [isDescribed.hidden_eq]
    simp
  · have documentEq : (Browser.ofDocument fixture.document reading selectors).document =
        (fixture.document.number 0).1 := rfl
    rw [documentEq, numbered]
    exact (Forest.decorate_nil _).symm
  · rw [isDescribed.focused_eq]
    rfl

/-- The document gives the offset that was described. -/
theorem serverOffset?_ofDocument (fixture : PageFixture) (reading : BrowserReading)
    (selectors : SelectorReader) :
    (Browser.ofDocument fixture.document reading selectors).serverOffset? =
      ZoneGap.readServerOffset? fixture.serverOffset := by
  have documentEq : (Browser.ofDocument fixture.document reading selectors).document =
      (Page.ofFixture fixture).form (fixture.scene .standard).key fixture.serverOffset
        (fixture.boxes.map fun id => (id, false)) :=
    congrArg Prod.fst (number_document fixture .standard)
  rw [Browser.serverOffset?, Browser.body?, documentEq, Page.form, Forest.layout]
  simp only [Forest.siblings, List.head?_cons, Option.bind_eq_bind, Option.bind_some,
    Forest.contentOf?, if_true, List.find?_cons]
  cases fixture.serverOffset <;> rfl

end PageFixture

end QuickFill
