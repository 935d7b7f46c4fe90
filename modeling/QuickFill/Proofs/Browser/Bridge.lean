import QuickFill.Proofs.Browser.Mirror
import QuickFill.Proofs.Session.Simulation

/-!
# Operations on mirrored pages

Each operation that a session asks of its page is made on both of two pages that mirror
each other, or refused by both, and afterwards they mirror each other again.  So a
session on a page in memory and one in a browser go on alike.
-/

namespace QuickFill

open Browser

def Scene.Mirrors (scene : Scene) (bench : Workbench) (browser : Browser) : Prop :=
  ∃ base boxes spans blocks, Mirrored scene base boxes spans blocks bench browser

/-- What corresponds on pages that mirror each other: an input of the page and the element
with its key.  When there is no calendar box, each page says so in its own words. -/
def Scene.likeness (scene : Scene) : Likeness Workbench Browser Nat Nat where
  settings := scene.settings
  pages := scene.Mirrors
  inputs number key := number ∈ scene.rows.flatten ∧ key = scene.key (.input number)
  causes cause other := ∃ id, cause = .noBox id ∧ other = .noElement id

variable {scene : Scene} {base : Page} {boxes : List (String × Bool)}
  {spans : Nat → List (Nat × Shortcut)} {blocks : Nat → List (Nat × String × String)}
  {bench : Workbench} {browser : Browser} {number : Nat}

/-! ### Logging -/

theorem Mirrored.record (mirrored : Mirrored scene base boxes spans blocks bench browser)
    (event : LogEvent) :
    Mirrored scene base boxes spans blocks { bench with log := bench.log ++ [event] }
      (browser.log event) := by
  obtain ⟨console, loggedEq⟩ := log_eq browser event
  rw [loggedEq]
  exact { mirrored with }

/-! ### Links -/

theorem Mirrored.insertShortcut
    (mirrored : Mirrored scene base boxes spans blocks bench browser)
    (member : number ∈ scene.rows.flatten) {shortcut : Shortcut}
    (classEq : shortcut.spanClass = scene.settings.shortcutsClass) :
    scene.likeness.Changes (Attachable.insertShortcut bench number shortcut)
      (Attachable.insertShortcut browser (scene.key (.input number)) shortcut) := by
  obtain ⟨home, row, input, placed, inRow, found, -, -⟩ := mirrored.exists_row member
  have onPage : Attachable.insertShortcut bench number shortcut =
      bench.changePage (bench.page.insertShortcut number shortcut) := rfl
  have inPage : number < base.inputs.length := (List.getElem?_eq_some_iff.mp found).1
  rw [mirrored.page_eq, Page.insertShortcut_decorated mirrored.formed inPage,
    ← scene.links_update spans number (browser.nextKey, shortcut)] at onPage
  have inDocument : Attachable.insertShortcut browser (scene.key (.input number)) shortcut =
      browser.insertShortcut (scene.key (.input number)) shortcut := rfl
  have homeEq : (browser.bare scene base boxes).document.homeOf? (scene.key (.input number)) none =
      some (some (scene.key (.container home))) := mirrored.homeOf?_form placed inRow
  have inserted := insertShortcut_decorated mirrored.keyed mirrored.fresh
    (mirrored.key_mem (Scene.input_mem member)) shortcut browser.nextKey
  rw [← mirrored.browser_eq, homeEq] at inserted
  rw [onPage, inDocument, inserted]
  refine .made ⟨base, boxes, _, blocks, { mirrored with
    page_eq := rfl
    document_eq := rfl
    fresh := mirrored.fresh.link _ mirrored.bound_le
    bound_le := Nat.le_add_right_of_le mirrored.bound_le
    spans_class := ?_
    spans_only := ?_ }⟩
  · intro key span isSpan
    by_cases same : key = scene.key (.input number)
    · subst same
      rw [Function.update_self] at isSpan
      rcases List.mem_cons.mp isSpan with rfl | old
      · exact classEq
      · exact mirrored.spans_class span old
    · rw [Function.update_of_ne same] at isSpan
      exact mirrored.spans_class span isSpan
  · intro place noInput
    rw [Function.update_of_ne fun same => noInput number (scene.key_injective same)]
    exact mirrored.spans_only place noInput

/-! ### Notes -/

theorem Mirrored.appendNote
    (mirrored : Mirrored scene base boxes spans blocks bench browser)
    (plain : scene.settings.Plain) (member : number ∈ scene.rows.flatten) {note : Note}
    (classesEq : note.classes = scene.settings.noteClasses) :
    scene.likeness.Changes (Attachable.appendNote bench number note)
      (Attachable.appendNote browser (scene.key (.input number)) note) := by
  obtain ⟨home, row, input, placed, inRow, found, homeEq, -⟩ := mirrored.exists_row member
  have named : base.homes[number]? = some home := by
    rw [Page.homes, List.getElem?_map, found, Option.map_some, homeEq]
  have noteEq : note = ⟨scene.settings.noteClasses, note.text⟩ := by
    rw [← classesEq]
  let block := (browser.nextKey, ClassName.spelled scene.settings.noteClasses.eraseDups, note.text)
  have onPage : Attachable.appendNote bench number note =
      bench.changePage (bench.page.appendNote number note) := rfl
  rw [mirrored.page_eq, Page.appendNote_decorated named, noteEq,
    ← scene.notes_update blocks home block] at onPage
  have inDocument : Attachable.appendNote browser (scene.key (.input number)) note =
      browser.appendNote (scene.key (.input number)) note := rfl
  have placeEq : (browser.bare scene base boxes).document.homeOf? (scene.key (.input number)) none =
      some (some (scene.key (.container home))) := mirrored.homeOf?_form placed inRow
  have joined : ClassName.joined note.classes =
      .ok (ClassName.spelled scene.settings.noteClasses.eraseDups) := by
    rw [classesEq]
    exact ClassName.joined_pair plain.helpClass (ClassName.isToken_of_isIdentifier plain.noteClass)
  have appended := appendNote_decorated mirrored.keyed mirrored.fresh
    (mirrored.key_mem (Scene.input_mem member)) note browser.nextKey
  rw [← mirrored.browser_eq, placeEq, joined] at appended
  rw [inDocument, appended, noteEq, onPage]
  refine .made ⟨base, boxes, spans, _, { mirrored with
    page_eq := rfl
    document_eq := rfl
    fresh := mirrored.fresh.note block mirrored.bound_le
    bound_le := Nat.le_add_right_of_le mirrored.bound_le
    blocks_class := ?_
    blocks_only := ?_ }⟩
  · intro key other isBlock
    by_cases same : key = scene.key (.container home)
    · subst same
      rw [Function.update_self] at isBlock
      rcases List.mem_append.mp isBlock with old | new
      · exact mirrored.blocks_class other old
      · rw [List.mem_singleton.mp new]
    · rw [Function.update_of_ne same] at isBlock
      exact mirrored.blocks_class other isBlock
  · intro place noContainer
    rw [Function.update_of_ne fun same => noContainer home (scene.key_injective same)]
    exact mirrored.blocks_only place noContainer

/-! ### Looking for notes -/

theorem any_congr_of_mem {α : Type} {items : List α} {holds others : α → Bool}
    (same : ∀ item ∈ items, holds item = others item) : items.any holds = items.any others := by
  rw [Bool.eq_iff_iff, List.any_eq_true, List.any_eq_true]
  apply exists_congr
  intro item
  apply and_congr_right
  intro member
  rw [same item member]

theorem any_linkRow {links : List (Nat × Shortcut)} {spanClass name : String}
    (token : ClassName.IsToken spanClass) (classEq : ∀ span ∈ links, span.2.spanClass = spanClass) :
    (linkRow links).elements.any (fun element => element.classes.contains name) =
      links.any fun span => span.2.spanClass == name := by
  rw [elements_linkRow, List.any_flatMap]
  apply any_congr_of_mem
  intro span isSpan
  have spanClasses : (spanOf span.1 span.2).classes = [spanClass] := by
    have made : (spanOf span.1 span.2).attribute? "class" =
        some (ClassName.spelled [spanClass]) := by
      rw [← classEq span isSpan]
      exact congrArg some String.intercalate_singleton.symm
    have tokens : ∀ other ∈ [spanClass], ClassName.IsToken other := by
      intro other member
      rw [List.mem_singleton.mp member]
      exact token
    rw [Element.classes_of_spelled tokens made]
    rfl
  have anchorClasses : (anchorOf span.1 span.2).classes = [] := rfl
  rw [List.any_cons, List.any_cons, List.any_nil, spanClasses, anchorClasses, classEq span isSpan,
    List.contains_cons, Bool.or_false]
  simp [eq_comm]

theorem any_noteRow {notes : List (Nat × String × String)} {classes : List String} {name : String}
    (tokens : ∀ name ∈ classes, ClassName.IsToken name)
    (classEq : ∀ block ∈ notes, block.2.1 = ClassName.spelled classes.eraseDups) :
    (noteRow notes).elements.any (fun element => element.classes.contains name) =
      notes.any fun _ => classes.contains name := by
  rw [elements_noteRow, List.any_map]
  apply any_congr_of_mem
  intro block isBlock
  have onceTokens : ∀ other ∈ classes.eraseDups, ClassName.IsToken other :=
    fun other member => tokens other (List.mem_eraseDups.mp member)
  have noteClasses : (noteOf block.1 block.2.1).classes = classes.eraseDups.eraseDups :=
    Element.classes_of_spelled onceTokens (congrArg some (classEq block isBlock))
  rw [Function.comp_apply, noteClasses, Bool.eq_iff_iff, List.contains_iff_mem,
    List.contains_iff_mem, List.mem_eraseDups, List.mem_eraseDups]

/-- Whether an input of a row, a link after one, or a note beside them has the class of
notes. -/
def Scene.isMarked (scene : Scene) (base : Page) (boxes : List (String × Bool))
    (spans : Nat → List (Nat × Shortcut)) (blocks : Nat → List (Nat × String × String))
    (home : Nat) (row : List Nat) : Bool :=
  let name := scene.settings.noteClass
  (row.any fun number =>
    (base.formElement scene.key scene.serverOffset boxes (.input number)).classes.contains name) ||
  (row.any fun number => (spans (scene.key (.input number))).any fun span =>
    span.2.spanClass == name) ||
  (blocks (scene.key (.container home))).any fun _ => scene.settings.noteClasses.contains name

theorem Mirrored.page_hasMarker
    (mirrored : Mirrored scene base boxes spans blocks bench browser)
    {home : Nat} {row : List Nat} {input : Input} (placed : scene.rows[home]? = some row)
    (found : base.inputs[number]? = some input) (homeEq : input.home = home) :
    bench.page.hasMarker number scene.settings.noteClass =
      scene.isMarked base boxes spans blocks home row := by
  have rowPlaced : base.rows[home]? = some row := mirrored.rows_eq ▸ placed
  rw [Page.rows, List.getElem?_map] at rowPlaced
  obtain ⟨container, containerPlaced, numbersEq⟩ := Option.map_eq_some_iff.mp rowPlaced
  have nodesEq := mirrored.plain container (List.mem_of_getElem? containerPlaced)
  have inputsEq : container.nodes.any (base.nodeHasClass scene.settings.noteClass) =
      row.any fun number => (base.formElement scene.key scene.serverOffset boxes
        (.input number)).classes.contains scene.settings.noteClass := by
    rw [nodesEq, numbersEq, List.any_map]
    apply any_congr_of_mem
    intro other otherMember
    obtain ⟨_, _, otherInput, _, _, otherFound, _, otherIn⟩ := mirrored.exists_row
      (List.mem_flatten.mpr ⟨row, List.mem_of_getElem? placed, otherMember⟩)
    have nodeEq (name : String) : base.nodeHasClass name (.input other) =
        otherInput.classes.contains name := by
      rw [Page.nodeHasClass, otherFound]
    rw [Function.comp_apply, nodeEq, Page.formElement_input otherFound,
      Input.contains_classes_element (mirrored.suits otherInput otherIn)]
  rw [mirrored.page_eq, Page.hasMarker_decorated found (homeEq ▸ containerPlaced), inputsEq,
    numbersEq, homeEq]
  simp only [Scene.links, Scene.notes, List.any_map]
  rfl

theorem Mirrored.browser_hasMarker
    (mirrored : Mirrored scene base boxes spans blocks bench browser)
    (plain : scene.settings.Plain) (member : number ∈ scene.rows.flatten) {home : Nat}
    {row : List Nat} (placed : scene.rows[home]? = some row) (inRow : number ∈ row) :
    browser.hasMarker (scene.key (.input number)) scene.settings.noteClass =
      scene.isMarked base boxes spans blocks home row := by
  have keyLt := Scene.key_lt (Scene.input_mem member)
  have homeLt := Scene.key_lt (Scene.container_mem placed)
  let elementAt := base.formElement scene.key scene.serverOffset boxes
  have placeEq : browser.document.homeOf? (scene.key (.input number)) none =
      some (some (scene.key (.container home))) := by
    rw [mirrored.document_eq, Forest.homeOf?_decorate mirrored.fresh.beyond keyLt,
      mirrored.homeOf?_form placed inRow]
  have contentEq : browser.document.contentOf? (scene.key (.container home)) =
      some ((Forest.leaves (row.map fun number => elementAt (.input number))).decorate
        (fun key => linkRow (spans key)) (fun key => noteRow (blocks key)) ++
          noteRow (blocks (scene.key (.container home)))) := by
    have held : (base.form scene.key scene.serverOffset boxes).contentOf?
        (elementAt (.container home)).key =
          some (Forest.leaves (row.map fun number => elementAt (.input number))) := by
      rw [Page.form, mirrored.rows_eq]
      exact Forest.contentOf?_layout (base.formElement_injective scene boxes) placed
    rw [Page.key_formElement] at held
    rw [mirrored.document_eq, Forest.contentOf?_decorate mirrored.fresh.beyond homeLt, held]
    rfl
  have shortcutToken := ClassName.isToken_of_isIdentifier plain.shortcutsClass
  have besideEq (other : Nat) : ((linkRow (spans (elementAt (.input other)).key)).elements.any
      (fun element => element.classes.contains scene.settings.noteClass) ||
        (noteRow (blocks (elementAt (.input other)).key)).elements.any
          fun element => element.classes.contains scene.settings.noteClass) =
      (spans (scene.key (.input other))).any fun span =>
        span.2.spanClass == scene.settings.noteClass := by
    have keyEq : (elementAt (.input other)).key = scene.key (.input other) :=
      Page.key_formElement _
    rw [keyEq, mirrored.blocks_only (.input other) (by simp),
      any_linkRow shortcutToken mirrored.spans_class]
    exact Bool.or_false _
  rw [Browser.hasMarker_of_identifier plain.noteClass placeEq]
  simp only [contentEq, Option.any_some, Forest.hasClass]
  rw [Forest.elements_append, List.any_append, Forest.any_decorate, Forest.elements_leaves,
    any_noteRow plain.noteTokens mirrored.blocks_class, List.any_map, List.any_map]
  refine congrArg₂ _ (congrArg₂ _ rfl ?_) rfl
  exact any_congr_of_mem fun other _ => besideEq other

theorem Mirrored.hasMarker (mirrored : Mirrored scene base boxes spans blocks bench browser)
    (plain : scene.settings.Plain) (member : number ∈ scene.rows.flatten) :
    Attachable.hasMarker browser (scene.key (.input number)) scene.settings.noteClass =
      Attachable.hasMarker bench number scene.settings.noteClass := by
  obtain ⟨home, row, input, placed, inRow, found, homeEq, -⟩ := mirrored.exists_row member
  exact (mirrored.browser_hasMarker plain member placed inRow).trans
    (mirrored.page_hasMarker placed found homeEq).symm

/-! ### Fields -/

/-- The fields of the page and those of the document, in one order and of the same
kinds. -/
theorem Mirrored.fields (mirrored : Mirrored scene base boxes spans blocks bench browser) :
    List.Forall₂ (fun (found other : Field Nat) =>
      scene.likeness.inputs found.input other.input ∧
        other.kind? scene.settings = found.kind? scene.settings)
      (Attachable.fields bench) (Attachable.fields browser) := by
  have onPage : Attachable.fields bench =
      scene.rows.flatten.filterMap (Workbench.field? base) := by
    have asked : Attachable.fields bench =
        bench.page.inputOrder.filterMap (Workbench.field? bench.page) := rfl
    rw [asked, mirrored.page_eq, Page.inputOrder_eq_flatten, Page.rows_decorated,
      mirrored.rows_eq]
    rfl
  have inDocument : Attachable.fields browser = scene.rows.flatten.map fun number =>
      (base.formElement scene.key scene.serverOffset boxes (.input number)).field := by
    have asked : Attachable.fields browser = browser.inputs.map Element.field := rfl
    rw [asked, mirrored.inputs_eq, List.map_map]
    rfl
  have each : ∀ numbers : List Nat, (∀ number ∈ numbers, number ∈ scene.rows.flatten) →
      List.Forall₂ (fun (found other : Field Nat) =>
        scene.likeness.inputs found.input other.input ∧
          other.kind? scene.settings = found.kind? scene.settings)
        (numbers.filterMap (Workbench.field? base)) (numbers.map fun number =>
          (base.formElement scene.key scene.serverOffset boxes (.input number)).field) := by
    intro numbers members
    induction numbers with
    | nil => exact .nil
    | cons number rest ih =>
        have member := members number List.mem_cons_self
        obtain ⟨_, _, input, _, _, found, _, isInput⟩ := mirrored.exists_row member
        have suits := mirrored.suits input isInput
        have fieldEq : Workbench.field? base number = some ⟨number, input.type, input.classes⟩ := by
          rw [Workbench.field?, found]
          rfl
        rw [List.filterMap_cons_some fieldEq, List.map_cons, Page.formElement_input found]
        refine .cons ⟨⟨member, rfl⟩, ?_⟩ (ih fun other later => members other (by simp [later]))
        simp only [Element.field, Field.kind?, Field.hasClass, Input.inputType_element suits,
          Input.contains_classes_element suits]
        rfl
  rw [onPage, inDocument]
  exact each scene.rows.flatten fun _ member => member

/-! ### Filling -/

theorem Mirrored.step? (mirrored : Mirrored scene base boxes spans blocks bench browser)
    (member : number ∈ scene.rows.flatten) :
    Fillable.step? browser (scene.key (.input number)) = Fillable.step? bench number := by
  obtain ⟨_, _, input, _, _, found, _, -⟩ := mirrored.exists_row member
  have onPage : Fillable.step? bench number = input.step := by
    have asked : Fillable.step? bench number = bench.page.step? number := rfl
    have inputsEq : (base.decorated (scene.links spans) (scene.notes blocks)).inputs =
        base.inputs := rfl
    rw [asked, mirrored.page_eq, Page.step?, inputsEq, found]
    rfl
  have asked : Fillable.step? browser (scene.key (.input number)) =
      (browser.element? (scene.key (.input number))).bind fun element =>
        element.attribute? "step" := rfl
  rw [asked, onPage, Browser.element?, mirrored.find?_eq (Scene.input_mem member),
    Page.formElement_input found]
  exact Input.step_element input _

theorem Mirrored.write (mirrored : Mirrored scene base boxes spans blocks bench browser)
    (member : number ∈ scene.rows.flatten) (text : String) :
    scene.likeness.Changes (Fillable.write bench number text)
      (Fillable.write browser (scene.key (.input number)) text) := by
  obtain ⟨_, _, input, _, _, found, _, -⟩ := mirrored.exists_row member
  have inPage : number < base.inputs.length := (List.getElem?_eq_some_iff.mp found).1
  have inDecorated : number <
      (base.decorated (scene.links spans) (scene.notes blocks)).inputs.length := inPage
  have onPage : Fillable.write bench number text =
      bench.changePage (bench.page.write number text) := rfl
  rw [mirrored.page_eq, Page.write_eq, if_pos inDecorated, Page.modifyInput_decorated] at onPage
  have documentEq : (browser.write (scene.key (.input number)) text).document =
      ((base.modifyInput number fun input => { input with value := text }).form scene.key
        scene.serverOffset boxes).decorate (fun key => linkRow (spans key))
          fun key => noteRow (blocks key) := by
    rw [Browser.write, mirrored.document_eq, Forest.modify_decorate mirrored.fresh.beyond
      (Scene.key_lt (Scene.input_mem member)), Page.modify_form_input scene.key_injective inPage]
    exact fun _ => rfl
  rw [onPage]
  refine .made ⟨base.modifyInput number fun input => { input with value := text }, boxes, spans,
    blocks, { mirrored with
      formed := mirrored.formed.modifyInput number fun _ => rfl
      suits := ?_
      page_eq := rfl
      document_eq := documentEq }⟩
  intro other isInput
  obtain ⟨place, placed⟩ := List.getElem?_of_mem isInput
  rw [Page.modifyInput, List.getElem?_modify] at placed
  obtain ⟨old, oldPlaced, rfl⟩ := Option.map_eq_some_iff.mp placed
  have oldSuits := mirrored.suits old (List.mem_of_getElem? oldPlaced)
  split
  · exact ⟨oldSuits.type_mem, oldSuits.classes_tokens, oldSuits.id_ne⟩
  · exact oldSuits

theorem Mirrored.focus (mirrored : Mirrored scene base boxes spans blocks bench browser)
    (member : number ∈ scene.rows.flatten) :
    scene.likeness.Changes (Fillable.focus bench number)
      (Fillable.focus browser (scene.key (.input number))) := by
  obtain ⟨_, _, input, _, _, found, _, -⟩ := mirrored.exists_row member
  have inDecorated : number <
      (base.decorated (scene.links spans) (scene.notes blocks)).inputs.length :=
    (List.getElem?_eq_some_iff.mp found).1
  have onPage : Fillable.focus bench number = bench.changePage (bench.page.focus number) := rfl
  rw [mirrored.page_eq, Page.focus_eq, if_pos inDecorated] at onPage
  have contains : browser.document.contains (scene.key (.input number)) = true := by
    rw [Forest.contains, mirrored.find?_eq (Scene.input_mem member)]
    rfl
  have inDocument : Fillable.focus browser (scene.key (.input number)) =
      .ok (browser.moveFocus (scene.key (.input number))) := rfl
  rw [moveFocus_eq (unheard_of_quiet mirrored.listeners_eq _), if_pos contains] at inDocument
  rw [onPage, inDocument]
  exact .made ⟨{ base with focused := some number }, boxes, spans, blocks, { mirrored with
    formed := mirrored.formed.congr rfl rfl
    page_eq := rfl
    active_eq := rfl }⟩

/-! ### Hiding boxes -/

/-- What is hidden when one more box is. -/
theorem mem_modify_hidden {place : Nat} {id : String} {hidden : Bool}
    (placed : boxes[place]? = some (id, hidden)) (other : String) :
    (other, true) ∈ boxes.modify place (fun box => (box.1, true)) ↔
      other = id ∨ (other, true) ∈ boxes := by
  simp only [List.mem_iff_getElem?, List.getElem?_modify]
  constructor
  · rintro ⟨index, found⟩
    obtain ⟨box, boxPlaced, boxEq⟩ := Option.map_eq_some_iff.mp found
    by_cases same : place = index
    · subst same
      obtain rfl := Option.some.inj (placed.symm.trans boxPlaced)
      rw [if_pos rfl] at boxEq
      exact Or.inl (Prod.mk.inj boxEq).1.symm
    · rw [if_neg same] at boxEq
      exact Or.inr ⟨index, boxEq ▸ boxPlaced⟩
  · rintro (rfl | ⟨index, found⟩)
    · exact ⟨place, by simp [placed]⟩
    · refine ⟨index, ?_⟩
      rw [found]
      by_cases same : place = index <;> simp [same]

theorem map_fst_modify (boxes : List (String × Bool)) (place : Nat) :
    (boxes.modify place fun box => (box.1, true)).map Prod.fst = boxes.map Prod.fst := by
  apply List.ext_getElem?
  intro index
  rw [List.getElem?_map, List.getElem?_map, List.getElem?_modify]
  cases boxes[index]? with
  | none => rfl
  | some box => by_cases same : place = index <;> simp [same]

/-- The calendar box of a handle: the page knows it and the form holds it, or neither. -/
theorem Mirrored.findBox (mirrored : Mirrored scene base boxes spans blocks bench browser)
    (handle : Nat) :
    let id := scene.settings.boxId handle
    (browser.document.withId? id = none ∧ base.boxes.contains id = false) ∨
      ∃ place hidden, boxes[place]? = some (id, hidden) ∧ base.boxes.contains id = true ∧
        browser.document.withId? id =
          some (base.formElement scene.key scene.serverOffset boxes (.box place)) := by
  intro id
  have filterEq : browser.document.elements.filter (fun element => element.id? == some id) =
      (base.form scene.key scene.serverOffset boxes).elements.filter
        fun element => element.id? == some id :=
    mirrored.filter_eq (fun _ _ _ => ⟨rfl, rfl⟩) fun _ _ _ => rfl
  rw [Forest.withId?, ← List.head?_filter, filterEq, List.head?_filter]
  have knownIff : base.boxes.contains id = true ↔ id ∈ scene.ids := by
    rw [List.contains_iff_mem, mirrored.boxes_mem]
  cases found : (base.form scene.key scene.serverOffset boxes).elements.find?
      fun element => element.id? == some id with
  | none =>
      refine Or.inl ⟨rfl, ?_⟩
      rw [← Bool.not_eq_true, knownIff, ← mirrored.ids_eq, List.mem_map]
      rintro ⟨⟨other, hidden⟩, member, rfl⟩
      obtain ⟨place, placed⟩ := List.getElem?_of_mem member
      have inForm : base.formElement scene.key scene.serverOffset boxes (.box place) ∈
          (base.form scene.key scene.serverOffset boxes).elements :=
        Page.box_mem_elements_form (List.getElem?_eq_some_iff.mp placed).1
      have missing := List.find?_eq_none.mp found _ inForm
      rw [Page.formElement_box placed] at missing
      exact missing (beq_self_eq_true _)
  | some element =>
      have named := List.find?_some found
      rw [beq_iff_eq] at named
      obtain ⟨place, hidden, placed, rfl⟩ := Page.exists_box (List.mem_of_find?_eq_some found) named
        fun input isInput => (mirrored.suits input isInput).id_ne handle
      refine Or.inr ⟨place, hidden, placed, ?_, rfl⟩
      rw [knownIff, ← mirrored.ids_eq]
      exact List.mem_map_of_mem (List.mem_of_getElem? placed)

/-- A box is hidden on both pages, or there is none. -/
theorem Mirrored.hide (mirrored : Mirrored scene base boxes spans blocks bench browser)
    (handle : Nat) :
    scene.likeness.Changes (Fillable.hide (ι := Nat) bench (scene.settings.boxId handle))
      (Fillable.hide (ι := Nat) browser (scene.settings.boxId handle)) := by
  let id := scene.settings.boxId handle
  have onPage : Fillable.hide (ι := Nat) bench id = bench.changePage (bench.page.hide id) := rfl
  have inDocument : Fillable.hide (ι := Nat) browser id = browser.hide id := rfl
  rw [mirrored.page_eq, Page.hide_decorated] at onPage
  rw [onPage, inDocument, Browser.hide]
  rcases mirrored.findBox handle with ⟨missing, unknown⟩ | ⟨place, hidden, placed, known, found⟩
  · rw [missing, unknown]
    exact .refused ⟨id, rfl, rfl⟩
  · have inside := (List.getElem?_eq_some_iff.mp placed).1
    have native : (base.formElement scene.key scene.serverOffset boxes (.box place)).native =
        true := by
      rw [Page.formElement_box placed]
    have keyLt : scene.key (.box place) < scene.bound := by
      apply Scene.key_lt
      rw [← mirrored.mem_places]
      simp [places, boxPlaces, inside]
    have documentEq : browser.document.modify (scene.key (.box place))
        (fun element => { element with hidden := true }) =
          (base.form scene.key scene.serverOffset
            (boxes.modify place fun box => (box.1, true))).decorate
              (fun key => linkRow (spans key)) fun key => noteRow (blocks key) := by
      rw [mirrored.document_eq, Forest.modify_decorate mirrored.fresh.beyond keyLt,
        Page.modify_form_box scene.key_injective inside]
      exact fun _ => rfl
    rw [found, known]
    simp only [native, if_true, Page.key_formElement]
    rw [documentEq]
    refine .made ⟨{ base with hidden := insertName id base.hidden },
      boxes.modify place fun box => (box.1, true), spans, blocks, { mirrored with
        formed := mirrored.formed.congr rfl rfl
        ids_eq := (map_fst_modify boxes place).trans mirrored.ids_eq
        hidden_mem := ?_
        page_eq := rfl
        document_eq := rfl }⟩
    intro other
    rw [mem_insertName, mirrored.hidden_mem, mem_modify_hidden placed]

/-- Sessions on pages that mirror each other go on alike. -/
theorem Scene.bridge (scene : Scene) (plain : scene.settings.Plain) : scene.likeness.Bridge where
  inputs_iff {number other key another} first second := by
    rw [first.2, second.2]
    exact ⟨fun same => by rw [same], fun same => scene.input_injective same⟩
  clock_eq := by
    rintro bench browser ⟨base, boxes, spans, blocks, mirrored⟩
    exact mirrored.clock_eq.symm
  translator_eq := by
    rintro bench browser ⟨base, boxes, spans, blocks, mirrored⟩
    have inDocument : Environment.translator browser = browser.functions.translator := rfl
    rw [inDocument, mirrored.functions_eq]
    exact mirrored.english.symm
  record event := by
    rintro ⟨base, boxes, spans, blocks, mirrored⟩
    exact ⟨base, boxes, spans, blocks, mirrored.record event⟩
  fields := by
    rintro bench browser ⟨base, boxes, spans, blocks, mirrored⟩
    exact mirrored.fields
  insertShortcut := by
    rintro bench browser number _ shortcut ⟨base, boxes, spans, blocks, mirrored⟩ ⟨member, rfl⟩
    exact mirrored.insertShortcut member
  appendNote := by
    rintro bench browser number _ note ⟨base, boxes, spans, blocks, mirrored⟩ ⟨member, rfl⟩
    exact mirrored.appendNote plain member
  hasMarker := by
    rintro bench browser number _ ⟨base, boxes, spans, blocks, mirrored⟩ ⟨member, rfl⟩
    exact mirrored.hasMarker plain member
  step? := by
    rintro bench browser number _ ⟨base, boxes, spans, blocks, mirrored⟩ ⟨member, rfl⟩
    exact mirrored.step? member
  write text := by
    rintro ⟨base, boxes, spans, blocks, mirrored⟩ ⟨member, rfl⟩
    exact mirrored.write member text
  focus := by
    rintro bench browser number _ ⟨base, boxes, spans, blocks, mirrored⟩ ⟨member, rfl⟩
    exact mirrored.focus member
  hide handle := by
    rintro ⟨base, boxes, spans, blocks, mirrored⟩
    exact mirrored.hide handle

end QuickFill
