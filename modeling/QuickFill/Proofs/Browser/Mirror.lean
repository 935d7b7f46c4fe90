import QuickFill.Page.Workbench
import QuickFill.Proofs.Browser.Decorated
import QuickFill.Proofs.Browser.Form
import QuickFill.Proofs.Browser.Later
import QuickFill.Proofs.Page.Decorated

/-!
# Pages that mirror each other

A page in memory and a page in a browser mirror each other when the document is the form
of the page: the links that follow an input of the page follow its element, and the notes
in a container of the page are held by its element.
-/

namespace QuickFill

open Browser

/-- What is asked of the settings of mirrored pages: classes that can be put on elements,
and found by selectors where they are looked for. -/
structure Settings.Plain (settings : Settings) : Prop where
  shortcutsClass : ClassName.isIdentifier settings.shortcutsClass.toList = true
  noteClass : ClassName.isIdentifier settings.noteClass.toList = true
  helpClass : ClassName.IsToken settings.helpClass

def Settings.noteClasses (settings : Settings) : List String :=
  [settings.helpClass, settings.noteClass]

theorem Settings.Plain.noteTokens {settings : Settings} (plain : settings.Plain) :
    ∀ name ∈ settings.noteClasses, ClassName.IsToken name := by
  intro name member
  simp only [noteClasses, List.mem_cons, List.not_mem_nil, or_false] at member
  rcases member with rfl | rfl
  · exact plain.helpClass
  · exact ClassName.isToken_of_isIdentifier plain.noteClass

/-- What stays the same of two pages that mirror each other: the settings, the rows of
inputs, the offset of the server, the ids of the boxes, the object through which scripts
reach the session, and the link that is being clicked. -/
structure Scene where
  settings : Settings
  rows : List (List Nat)
  serverOffset : Option String
  ids : List String
  object : Option (Holder × BootReport) := none
  clicked : Option Nat := none

namespace Scene

variable (scene : Scene)

def key : Place → Nat :=
  placeKey scene.rows scene.ids.length

/-- The first key that no element of the form has. -/
def bound : Nat :=
  (places scene.rows scene.ids.length).length

theorem key_injective : Function.Injective scene.key :=
  placeKey_injective scene.rows scene.ids.length

def links (spans : Nat → List (Nat × Shortcut)) (number : Nat) : List Shortcut :=
  (spans (scene.key (.input number))).map Prod.snd

def notes (blocks : Nat → List (Nat × String × String)) (home : Nat) : List Note :=
  (blocks (scene.key (.container home))).map fun block =>
    ⟨scene.settings.noteClasses, block.2.2⟩

end Scene

/-- Two pages that mirror each other, with the page without links and notes whose form
the document decorates, the boxes with whether they are hidden, and the spans and blocks
of text that the document has been given. -/
structure Mirrored (scene : Scene) (base : Page) (boxes : List (String × Bool))
    (spans : Nat → List (Nat × Shortcut)) (blocks : Nat → List (Nat × String × String))
    (bench : Workbench) (browser : Browser) : Prop where
  formed : base.WellFormed
  plain : ∀ container ∈ base.containers, container.nodes = container.numbers.map .input
  rows_eq : base.rows = scene.rows
  suits : ∀ input ∈ base.inputs, input.Suits scene.settings
  ids_eq : boxes.map Prod.fst = scene.ids
  boxes_mem : ∀ id, id ∈ base.boxes ↔ id ∈ scene.ids
  hidden_mem : ∀ id, id ∈ base.hidden ↔ (id, true) ∈ boxes
  page_eq : bench.page = base.decorated (scene.links spans) (scene.notes blocks)
  document_eq : browser.document = (base.form scene.key scene.serverOffset boxes).decorate
    (fun key => linkRow (spans key)) fun key => noteRow (blocks key)
  fresh : Fresh scene.bound spans blocks
  bound_le : scene.bound ≤ browser.nextKey
  spans_class : ∀ {key : Nat}, ∀ span ∈ spans key,
    span.2.spanClass = scene.settings.shortcutsClass
  blocks_class : ∀ {key : Nat}, ∀ block ∈ blocks key,
    block.2.1 = ClassName.spelled scene.settings.noteClasses.eraseDups
  spans_only : ∀ place, (∀ number, place ≠ .input number) → spans (scene.key place) = []
  blocks_only : ∀ place, (∀ home, place ≠ .container home) → blocks (scene.key place) = []
  active_eq : browser.active = base.focused.map fun number => scene.key (.input number)
  clock_eq : bench.clock = browser.reading.instant
  english : bench.translator = .english
  functions_eq : browser.functions = {}
  removed_eq : browser.removed = []
  listeners_eq : browser.listeners = []
  object_eq : browser.object = scene.object
  clicked_eq : browser.clicked = scene.clicked

variable {scene : Scene} {base : Page} {boxes : List (String × Bool)}
  {spans : Nat → List (Nat × Shortcut)} {blocks : Nat → List (Nat × String × String)}
  {bench : Workbench} {browser : Browser} {number home : Nat}

/-! ### More links and notes -/

theorem map_update {α β γ δ : Type} [DecidableEq α] [DecidableEq β] {place : α → β}
    (apart : Function.Injective place) (held : β → γ) (shown : γ → δ) (here : α) (value : γ) :
    (fun other => shown (Function.update held (place here) value (place other))) =
      Function.update (fun other => shown (held (place other))) here (shown value) := by
  have shownEq := Function.comp_update shown (held ∘ place) here value
  rw [← Function.update_comp_eq_of_injective held apart] at shownEq
  exact shownEq

theorem Scene.input_injective (scene : Scene) :
    Function.Injective fun number => scene.key (.input number) :=
  fun _ _ same => Place.input.inj (scene.key_injective same)

theorem Scene.container_injective (scene : Scene) :
    Function.Injective fun home => scene.key (.container home) :=
  fun _ _ same => Place.container.inj (scene.key_injective same)

theorem Scene.links_update (scene : Scene) (spans : Nat → List (Nat × Shortcut)) (number : Nat)
    (span : Nat × Shortcut) :
    scene.links (Function.update spans (scene.key (.input number))
        (span :: spans (scene.key (.input number)))) =
      Function.update (scene.links spans) number (span.2 :: scene.links spans number) :=
  map_update scene.input_injective spans (List.map Prod.snd) number _

theorem Scene.notes_update (scene : Scene) (blocks : Nat → List (Nat × String × String))
    (home : Nat) (block : Nat × String × String) :
    scene.notes (Function.update blocks (scene.key (.container home))
        (blocks (scene.key (.container home)) ++ [block])) =
      Function.update (scene.notes blocks) home
        (scene.notes blocks home ++ [⟨scene.settings.noteClasses, block.2.2⟩]) := by
  have updated := map_update scene.container_injective blocks
    (List.map fun block => (⟨scene.settings.noteClasses, block.2.2⟩ : Note)) home
    (blocks (scene.key (.container home)) ++ [block])
  rw [List.map_append] at updated
  exact updated

/-! ### Inputs of mirrored pages -/

theorem Mirrored.rows_nodup (mirrored : Mirrored scene base boxes spans blocks bench browser) :
    scene.rows.flatten.Nodup := by
  rw [← mirrored.rows_eq]
  exact mirrored.formed.order_perm.nodup_iff.mpr List.nodup_range

/-- The row of an input, and the container that it names. -/
theorem Mirrored.exists_row (mirrored : Mirrored scene base boxes spans blocks bench browser)
    (member : number ∈ scene.rows.flatten) :
    ∃ home row input, scene.rows[home]? = some row ∧ number ∈ row ∧
      base.inputs[number]? = some input ∧ input.home = home ∧ input ∈ base.inputs := by
  obtain ⟨row, rowMember, inRow⟩ := List.mem_flatten.mp member
  obtain ⟨home, placed⟩ := List.getElem?_of_mem rowMember
  have basePlaced : base.rows[home]? = some row := mirrored.rows_eq ▸ placed
  obtain ⟨input, found, homeEq⟩ :=
    Page.homes_eq_some (mirrored.formed.home_of_mem basePlaced inRow)
  exact ⟨home, row, input, placed, inRow, found, homeEq, List.mem_of_getElem? found⟩

theorem Mirrored.length_boxes (mirrored : Mirrored scene base boxes spans blocks bench browser) :
    boxes.length = scene.ids.length := by
  rw [← mirrored.ids_eq, List.length_map]

theorem Mirrored.mem_places (mirrored : Mirrored scene base boxes spans blocks bench browser)
    {place : Place} :
    place ∈ places base.rows boxes.length ↔ place ∈ places scene.rows scene.ids.length := by
  rw [mirrored.rows_eq, mirrored.length_boxes]

theorem Scene.key_lt {scene : Scene} {place : Place}
    (member : place ∈ places scene.rows scene.ids.length) : scene.key place < scene.bound :=
  placeKey_lt member

theorem Scene.input_mem {scene : Scene} (member : number ∈ scene.rows.flatten) :
    Place.input number ∈ places scene.rows scene.ids.length := by
  simp only [places, List.mem_cons, List.mem_append, mem_containerPlaces]
  exact Or.inr (Or.inr (Or.inl (Or.inr ⟨number, member, rfl⟩)))

theorem Scene.container_mem {scene : Scene} {row : List Nat}
    (placed : scene.rows[home]? = some row) :
    Place.container home ∈ places scene.rows scene.ids.length := by
  simp only [places, List.mem_cons, List.mem_append, mem_containerPlaces]
  refine Or.inr (Or.inr (Or.inl (Or.inl ⟨home, ?_, by rw [Nat.zero_add]⟩)))
  exact (List.getElem?_eq_some_iff.mp placed).1

/-! ### The document without links and notes -/

/-- A page in a browser before the document was given links and notes. -/
def Browser.bare (browser : Browser) (scene : Scene) (base : Page)
    (boxes : List (String × Bool)) : Browser :=
  { browser with
    document := base.form scene.key scene.serverOffset boxes
    nextKey := scene.bound }

theorem Mirrored.browser_eq (mirrored : Mirrored scene base boxes spans blocks bench browser) :
    browser = (browser.bare scene base boxes).decorated spans blocks browser.nextKey := by
  have documentEq := mirrored.document_eq
  obtain ⟨document, nextKey⟩ := browser
  rw [bare, decorated]
  congr 1

theorem Mirrored.keys_form (mirrored : Mirrored scene base boxes spans blocks bench browser) :
    (base.form scene.key scene.serverOffset boxes).keys =
      (places scene.rows scene.ids.length).map scene.key := by
  rw [Page.form, Forest.keys_layout, mirrored.rows_eq, mirrored.length_boxes]
  apply List.map_congr_left
  intro place _
  exact Page.key_formElement place

theorem Mirrored.keyed (mirrored : Mirrored scene base boxes spans blocks bench browser) :
    (browser.bare scene base boxes).Keyed := by
  have keysEq := mirrored.keys_form
  constructor
  · rw [bare, keysEq]
    exact (places_nodup mirrored.rows_nodup _).map scene.key_injective
  · intro key member
    rw [bare, keysEq] at member
    obtain ⟨place, isPlace, rfl⟩ := List.mem_map.mp member
    exact Scene.key_lt isPlace

theorem Mirrored.key_mem (mirrored : Mirrored scene base boxes spans blocks bench browser)
    {place : Place} (member : place ∈ places scene.rows scene.ids.length) :
    scene.key place ∈ (base.form scene.key scene.serverOffset boxes).keys := by
  rw [mirrored.keys_form]
  exact List.mem_map_of_mem member

theorem Page.formElement_injective (base : Page) (scene : Scene) (boxes : List (String × Bool)) :
    Function.Injective fun place =>
      (base.formElement scene.key scene.serverOffset boxes place).key := by
  intro place other same
  simp only [Page.key_formElement] at same
  exact scene.key_injective same

/-- An input of the page stands in the element of its container. -/
theorem Mirrored.homeOf?_form (mirrored : Mirrored scene base boxes spans blocks bench browser)
    {row : List Nat} (placed : scene.rows[home]? = some row) (member : number ∈ row) :
    (base.form scene.key scene.serverOffset boxes).homeOf? (scene.key (.input number)) none =
      some (some (scene.key (.container home))) := by
  let elementAt := base.formElement scene.key scene.serverOffset boxes
  have found : (base.form scene.key scene.serverOffset boxes).homeOf?
      (elementAt (.input number)).key none = some (some (elementAt (.container home)).key) := by
    rw [Page.form, mirrored.rows_eq]
    exact Forest.homeOf?_layout (base.formElement_injective scene boxes) mirrored.rows_nodup placed
      member
  rw [Page.key_formElement, Page.key_formElement] at found
  exact found

/-- What is like no span and no note is found in the form. -/
theorem Mirrored.filter_eq (mirrored : Mirrored scene base boxes spans blocks bench browser)
    {picks : Element → Bool}
    (noLink : ∀ key, ∀ span ∈ spans key,
      picks (spanOf span.1 span.2) = false ∧ picks (anchorOf span.1 span.2) = false)
    (noNote : ∀ key, ∀ block ∈ blocks key, picks (noteOf block.1 block.2.1) = false) :
    browser.document.elements.filter picks =
      (base.form scene.key scene.serverOffset boxes).elements.filter picks := by
  rw [mirrored.document_eq]
  apply Forest.filter_decorate
  · intro key element member
    rw [elements_linkRow, List.mem_flatMap] at member
    obtain ⟨span, isSpan, isElement⟩ := member
    simp only [List.mem_cons, List.not_mem_nil, or_false] at isElement
    rcases isElement with rfl | rfl
    · exact (noLink key span isSpan).1
    · exact (noLink key span isSpan).2
  · intro key element member
    rw [elements_noteRow] at member
    obtain ⟨block, isBlock, rfl⟩ := List.mem_map.mp member
    exact noNote key block isBlock

theorem Mirrored.inputs_eq (mirrored : Mirrored scene base boxes spans blocks bench browser) :
    browser.inputs = scene.rows.flatten.map fun number =>
      base.formElement scene.key scene.serverOffset boxes (.input number) := by
  rw [Browser.inputs, mirrored.filter_eq (fun _ _ _ => ⟨rfl, rfl⟩) fun _ _ _ => rfl,
    Page.inputs_form, mirrored.rows_eq]

/-- The element of a place is found by its key. -/
theorem Mirrored.find?_eq (mirrored : Mirrored scene base boxes spans blocks bench browser)
    {place : Place} (member : place ∈ places scene.rows scene.ids.length) :
    browser.document.find? (scene.key place) =
      some (base.formElement scene.key scene.serverOffset boxes place) := by
  have keyLt := Scene.key_lt member
  have keyNe {other : Nat} (beyond : scene.bound ≤ other) : (other == scene.key place) = false := by
    rw [beq_eq_false_iff_ne]
    omega
  have inForm : base.formElement scene.key scene.serverOffset boxes place ∈
      (base.form scene.key scene.serverOffset boxes).elements := by
    rw [Page.form, Forest.elements_layout]
    exact List.mem_map_of_mem (mirrored.mem_places.mpr member)
  have filterEq : browser.document.elements.filter (fun element => element.key == scene.key place) =
      (base.form scene.key scene.serverOffset boxes).elements.filter
        fun element => element.key == scene.key place := by
    apply mirrored.filter_eq
    · intro key span isSpan
      have spanLe := mirrored.fresh.links_le isSpan
      exact ⟨keyNe spanLe, keyNe (Nat.le_succ_of_le spanLe)⟩
    · intro key block isBlock
      exact keyNe (mirrored.fresh.notes_le isBlock)
  rw [Forest.find?, ← List.head?_filter, filterEq, List.head?_filter]
  cases found : (base.form scene.key scene.serverOffset boxes).elements.find?
      fun element => element.key == scene.key place with
  | none =>
      have missing := List.find?_eq_none.mp found _ inForm
      simp at missing
  | some element =>
      have isKey := List.find?_some found
      obtain ⟨other, -, rfl⟩ := Page.mem_elements_form (List.mem_of_find?_eq_some found)
      rw [Page.key_formElement, beq_iff_eq] at isKey
      rw [scene.key_injective isKey]

end QuickFill
