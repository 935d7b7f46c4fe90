import QuickFill.Proofs.Browser.Mirror
import QuickFill.Proofs.Page.Links

/-!
# What is seen of a page

Seen of a page are the inputs, links and notes in its containers, with what is filled in
and which input has the focus, and the calendar boxes that are hidden.  A page in memory
and a page in a browser are seen in ways of their own; when they mirror each other the
same is seen of both, but that a document shows each class of a note once.
-/

namespace QuickFill

/-- What is seen of one thing in a container. -/
inductive ShownNode where
  | input (id type value : String) (focused : Bool)
  | link (spanClass label : String) (action : Option QuickLink)
  | note (classes : List String) (text : String)
  deriving DecidableEq, Repr

@[ext]
structure PageView where
  containers : List (List ShownNode)
  isHidden : String → Bool

def ShownNode.once : ShownNode → ShownNode
  | .note classes text => .note classes.eraseDups text
  | node => node

/-- What is seen when each class of each note is shown once. -/
def PageView.once (view : PageView) : PageView :=
  { view with containers := view.containers.map (List.map ShownNode.once) }

/-! ### Seeing a page in memory -/

namespace Page

def shownNode (page : Page) : PageNode → ShownNode
  | .input number =>
    match page.inputs[number]? with
    | some input => .input input.id input.type input.value (page.focused == some number)
    | none => .input "" "text" "" false
  | .shortcut shortcut => .link shortcut.spanClass shortcut.label (some shortcut.action)
  | .note note => .note note.classes note.text

def view (page : Page) : PageView where
  containers := page.containers.map fun container => container.nodes.map page.shownNode
  isHidden := page.isHidden

end Page

/-! ### Seeing a document -/

namespace Forest

/-- The text in a row and in its elements. -/
def plainText : Forest → String
  | .nil => ""
  | .text content rest => content ++ rest.plainText
  | .element _ children rest => children.plainText ++ rest.plainText

/-- The first link of a row, with its text. -/
def firstLink? : Forest → Option (Element × String)
  | .nil => none
  | .text _ rest => rest.firstLink?
  | .element head children rest =>
    if head.tag = "a" then some (head, children.plainText) else rest.firstLink?

/-- What is seen of an element with its content: an input, a link, or else a note. -/
def shownElement (active : Option Nat) (element : Element) (content : Forest) : ShownNode :=
  if element.isInput then
    .input (element.id?.getD "") element.inputType element.value (active == some element.key)
  else
    match content.firstLink? with
    | some (link, label) => .link ((element.attribute? "class").getD "") label link.action
    | none => .note element.classes content.plainText

def shown (active : Option Nat) : Forest → List ShownNode
  | .nil => []
  | .text _ rest => rest.shown active
  | .element head children rest => shownElement active head children :: rest.shown active

/-- The contents of the elements with a tag, in document order. -/
def contents (tag : String) : Forest → List Forest
  | .nil => []
  | .text _ rest => rest.contents tag
  | .element head children rest =>
    (if head.tag = tag then [children] else []) ++ (children.contents tag ++ rest.contents tag)

end Forest

/-- What is seen of a page in a browser; its containers are the paragraphs. -/
def Browser.view (browser : Browser) : PageView where
  containers := (browser.document.contents "p").map (Forest.shown browser.active)
  isHidden id := browser.document.elements.any fun element =>
    element.id? == some id && element.hidden

namespace Forest

/-! ### Contents of a decorated form -/

variable {rows : List (List Nat)} {boxes : Nat} {elementAt : Place → Element}
  {after inside : Nat → Forest} {tag : String}

theorem contents_append (first second : Forest) :
    (first ++ second).contents tag = first.contents tag ++ second.contents tag := by
  induction first with
  | nil => rfl
  | text content rest ih => exact ih
  | element head children rest _ ih =>
      rw [element_append, contents, contents, ih, List.append_assoc, List.append_assoc]

theorem contents_eq_nil {forest : Forest} (others : ∀ element ∈ forest.elements, element.tag ≠ tag) :
    forest.contents tag = [] := by
  induction forest with
  | nil => rfl
  | text content rest ih => exact ih others
  | element head children rest inner ih =>
      simp only [elements, List.mem_cons, List.mem_append] at others
      rw [contents, if_neg (others head (Or.inl rfl)),
        inner fun element member => others element (Or.inr (Or.inl member)),
        ih fun element member => others element (Or.inr (Or.inr member))]
      rfl

section Decorated

variable (noneAfter : ∀ key, (after key).contents tag = [])
  (noneInside : ∀ key, (inside key).contents tag = [])
include noneAfter noneInside

theorem contents_decorate_leaves {elements : List Element}
    (others : ∀ element ∈ elements, element.tag ≠ tag) :
    ((leaves elements).decorate after inside).contents tag = [] := by
  induction elements with
  | nil => rfl
  | cons first rest ih =>
      rw [leaves, decorate, contents, if_neg (others first List.mem_cons_self), decorate,
        nil_append, contents_append, noneInside, noneAfter,
        ih fun element member => others element (List.mem_cons_of_mem _ member)]
      rfl

theorem contents_decorate_containers (tail : Forest) (home : Nat) (rows : List (List Nat))
    (containers_tag : ∀ home, (elementAt (.container home)).tag = tag)
    (inputs_tag : ∀ number, (elementAt (.input number)).tag ≠ tag) :
    ((containers elementAt tail home rows).decorate after inside).contents tag =
      (rows.mapIdx fun offset row =>
        (leaves (row.map fun number => elementAt (.input number))).decorate after inside ++
          inside (elementAt (.container (home + offset))).key) ++
        (tail.decorate after inside).contents tag := by
  induction rows generalizing home with
  | nil => rfl
  | cons row rest ih =>
      have plainRow : ∀ element ∈ row.map fun number => elementAt (.input number),
          element.tag ≠ tag := by
        intro element member
        obtain ⟨number, -, rfl⟩ := List.mem_map.mp member
        exact inputs_tag number
      have shift (offset : Nat) : home + 1 + offset = home + (offset + 1) := by omega
      rw [containers, decorate, contents, if_pos (containers_tag home), contents_append,
        contents_append, contents_decorate_leaves noneAfter noneInside plainRow, noneInside,
        noneAfter, ih, List.mapIdx_cons]
      simp only [shift, Nat.add_zero, List.nil_append, List.cons_append]

/-- The containers of a decorated form hold their inputs, decorated, and what was put into
them. -/
theorem contents_decorate_layout (containers_tag : ∀ home, (elementAt (.container home)).tag = tag)
    (others_tag : ∀ place, (∀ home, place ≠ .container home) → (elementAt place).tag ≠ tag) :
    ((layout rows boxes elementAt).decorate after inside).contents tag =
      rows.mapIdx fun home row =>
        (leaves (row.map fun number => elementAt (.input number))).decorate after inside ++
          inside (elementAt (.container home)).key := by
  have plainBoxes : ∀ element ∈ (boxPlaces boxes).map elementAt, element.tag ≠ tag := by
    intro element member
    obtain ⟨place, isBox, rfl⟩ := List.mem_map.mp member
    obtain ⟨number, -, rfl⟩ := List.mem_map.mp isBox
    exact others_tag _ (by simp)
  have rowsEq := contents_decorate_containers noneAfter noneInside
    (leaves ((boxPlaces boxes).map elementAt)) 0 rows containers_tag
    fun number => others_tag _ (by simp)
  rw [contents_decorate_leaves noneAfter noneInside plainBoxes, List.append_nil] at rowsEq
  simp only [Nat.zero_add] at rowsEq
  rw [← rowsEq]
  simp [layout, decorate, contents, contents_append, noneAfter, noneInside, others_tag]

end Decorated

/-! ### Rows of a decorated form -/

variable {active : Option Nat}

theorem shown_append (first second : Forest) :
    (first ++ second).shown active = first.shown active ++ second.shown active := by
  induction first with
  | nil => rfl
  | text content rest ih => exact ih
  | element head children rest _ ih => rw [element_append, shown, shown, ih, List.cons_append]

theorem plainText_ofText (content : String) : (ofText content).plainText = content := by
  rw [ofText]
  split
  · next empty => rw [empty, plainText]
  · exact String.append_empty

theorem firstLink?_ofText (content : String) : (ofText content).firstLink? = none := by
  rw [ofText]
  split <;> rfl

theorem shown_decorate_leaves {elements : List Element}
    (nothingInside : ∀ element ∈ elements, inside element.key = .nil) :
    ((leaves elements).decorate after inside).shown active =
      elements.flatMap fun element =>
        shownElement active element .nil :: (after element.key).shown active := by
  induction elements with
  | nil => rfl
  | cons first rest ih =>
      rw [leaves, decorate, shown, decorate, nothingInside first List.mem_cons_self, nil_append,
        shown_append, ih fun element member => nothingInside element (List.mem_cons_of_mem _ member),
        List.flatMap_cons, List.cons_append]

end Forest

namespace Browser

theorem shown_linkRow (active : Option Nat) (links : List (Nat × Shortcut)) :
    (linkRow links).shown active = links.map fun link =>
      .link link.2.spanClass link.2.label (some link.2.action) := by
  induction links with
  | nil => rfl
  | cons link rest ih =>
      have shownEq : Forest.shownElement active (spanOf link.1 link.2)
          (.text linkSpace (.element (anchorOf link.1 link.2) (.ofText link.2.label) .nil)) =
            .link link.2.spanClass link.2.label (some link.2.action) := by
        have found : (Forest.text linkSpace
            (.element (anchorOf link.1 link.2) (.ofText link.2.label) .nil)).firstLink? =
              some (anchorOf link.1 link.2, (Forest.ofText link.2.label).plainText) := rfl
        rw [Forest.shownElement, found, Forest.plainText_ofText]
        rfl
      rw [linkRow_cons, Forest.shown_append, ih, shortcutNodes_eq, Forest.shown, shownEq]
      rfl

theorem shown_noteRow (active : Option Nat) {notes : List (Nat × String × String)}
    {classes : List String} (shownClasses : ∀ note ∈ notes,
      (noteOf note.1 note.2.1).classes = classes) :
    (noteRow notes).shown active = notes.map fun note => .note classes note.2.2 := by
  induction notes with
  | nil => rfl
  | cons note rest ih =>
      have consEq : noteRow (note :: rest) =
          .element (noteOf note.1 note.2.1) (.ofText note.2.2) (noteRow rest) := rfl
      have shownEq : Forest.shownElement active (noteOf note.1 note.2.1) (.ofText note.2.2) =
          .note classes note.2.2 := by
        rw [Forest.shownElement, Forest.firstLink?_ofText, Forest.plainText_ofText,
          shownClasses note List.mem_cons_self]
        rfl
      rw [consEq, Forest.shown, shownEq, List.map_cons,
        ih fun other member => shownClasses other (List.mem_cons_of_mem _ member)]

end Browser

/-! ### Mirrored pages -/

section Mirrored

open Browser

variable {scene : Scene} {base : Page} {boxes : List (String × Bool)}
  {spans : Nat → List (Nat × Shortcut)} {blocks : Nat → List (Nat × String × String)}
  {bench : Workbench} {browser : Browser} {number home : Nat} {row : List Nat}

/-- An input is seen in the same way on both pages. -/
theorem Mirrored.shownElement_input
    (mirrored : Mirrored scene base boxes spans blocks bench browser)
    (placed : scene.rows[home]? = some row) (member : number ∈ row) :
    Forest.shownElement browser.active
        (base.formElement scene.key scene.serverOffset boxes (.input number)) .nil =
      bench.page.shownNode (.input number) := by
  have inRows : number ∈ scene.rows.flatten :=
    List.mem_flatten.mpr ⟨row, List.mem_of_getElem? placed, member⟩
  obtain ⟨-, -, input, -, -, found, -, isInput⟩ := mirrored.exists_row inRows
  have foundOn : bench.page.inputs[number]? = some input := by
    rw [mirrored.page_eq]
    exact found
  have focusEq : (browser.active == some (scene.key (.input number))) =
      (bench.page.focused == some number) := by
    have focusedEq : bench.page.focused = base.focused := by
      rw [mirrored.page_eq]
      rfl
    rw [mirrored.active_eq, focusedEq, Bool.eq_iff_iff, beq_iff_eq, beq_iff_eq]
    cases base.focused with
    | none => simp
    | some other =>
        rw [Option.map_some, Option.some_inj, Option.some_inj]
        exact scene.input_injective.eq_iff
  rw [Page.formElement_input found, Forest.shownElement, Page.shownNode, foundOn]
  simp only [focusEq.symm]
  rw [Input.inputType_element (mirrored.suits input isInput)]
  rfl

theorem Settings.eraseDups_noteClasses (settings : Settings) :
    settings.noteClasses.eraseDups.eraseDups = settings.noteClasses.eraseDups := by
  rw [noteClasses]
  by_cases same : settings.noteClass = settings.helpClass
  · simp [List.eraseDups_cons, same]
  · simp [List.eraseDups_cons, same]

/-- A note of the document has the classes of notes, each once. -/
theorem Mirrored.classes_note (mirrored : Mirrored scene base boxes spans blocks bench browser)
    (plain : scene.settings.Plain) {key : Nat} :
    ∀ block ∈ blocks key,
      (noteOf block.1 block.2.1).classes = scene.settings.noteClasses.eraseDups := by
  intro block member
  have made : (noteOf block.1 block.2.1).attribute? "class" =
      some (ClassName.spelled scene.settings.noteClasses.eraseDups) := by
    rw [← mirrored.blocks_class block member]
    rfl
  rw [Element.classes_of_spelled (fun name once =>
    plain.noteTokens name (List.mem_eraseDups.mp once)) made,
    Settings.eraseDups_noteClasses]

/-- A container of the document is seen as the container of the page, with each class of
a note once. -/
theorem Mirrored.shown_container
    (mirrored : Mirrored scene base boxes spans blocks bench browser)
    (plain : scene.settings.Plain) (placed : scene.rows[home]? = some row) :
    (((Forest.leaves (row.map fun number =>
        base.formElement scene.key scene.serverOffset boxes (.input number))).decorate
          (fun key => linkRow (spans key)) fun key => noteRow (blocks key)) ++
        noteRow (blocks (scene.key (.container home)))).shown browser.active =
      ((row.map PageNode.input).flatMap (PageNode.withLinks (scene.links spans)) ++
        (scene.notes blocks home).map PageNode.note).map fun node =>
          (bench.page.shownNode node).once := by
  have nothingInside : ∀ element ∈ row.map fun number =>
      base.formElement scene.key scene.serverOffset boxes (.input number),
        noteRow (blocks element.key) = .nil := by
    intro element member
    obtain ⟨number, -, rfl⟩ := List.mem_map.mp member
    rw [Page.key_formElement, mirrored.blocks_only _ fun home same => Place.noConfusion same]
    rfl
  have linksEq (number : Nat) (member : number ∈ row) :
      (PageNode.withLinks (scene.links spans) (.input number)).map
        (fun node => (bench.page.shownNode node).once) =
      Forest.shownElement browser.active
          (base.formElement scene.key scene.serverOffset boxes (.input number)) .nil ::
        (linkRow (spans (scene.key (.input number)))).shown browser.active := by
    have shownEq := mirrored.shownElement_input placed member
    have once : (bench.page.shownNode (.input number)).once =
        bench.page.shownNode (.input number) := by
      rw [Page.shownNode]
      split <;> rfl
    rw [PageNode.withLinks, List.map_cons, once, shownEq, shown_linkRow, Scene.links,
      List.map_map, List.map_map]
    rfl
  rw [Forest.shown_append, Forest.shown_decorate_leaves nothingInside,
    shown_noteRow _ (mirrored.classes_note plain), List.map_append, List.flatMap_map,
    List.flatMap_map, List.map_flatMap, Scene.notes, List.map_map, List.map_map]
  congr 1
  rw [List.flatMap_def, List.flatMap_def]
  congr 1
  apply List.map_congr_left
  intro number member
  rw [linksEq number member, Page.key_formElement]

theorem Mirrored.contents_eq (mirrored : Mirrored scene base boxes spans blocks bench browser) :
    browser.document.contents "p" = scene.rows.mapIdx fun home row =>
      ((Forest.leaves (row.map fun number =>
        base.formElement scene.key scene.serverOffset boxes (.input number))).decorate
          (fun key => linkRow (spans key)) fun key => noteRow (blocks key)) ++
        noteRow (blocks (scene.key (.container home))) := by
  have noneAfter (key : Nat) : (linkRow (spans key)).contents "p" = [] := by
    apply Forest.contents_eq_nil
    intro element member
    rw [elements_linkRow, List.mem_flatMap] at member
    obtain ⟨span, -, isElement⟩ := member
    simp only [List.mem_cons, List.not_mem_nil, or_false] at isElement
    rcases isElement with rfl | rfl <;> simp [spanOf, anchorOf]
  have noneInside (key : Nat) : (noteRow (blocks key)).contents "p" = [] := by
    apply Forest.contents_eq_nil
    intro element member
    rw [elements_noteRow] at member
    obtain ⟨block, -, rfl⟩ := List.mem_map.mp member
    simp [noteOf]
  have others (place : Place) (noContainer : ∀ home, place ≠ .container home) :
      (base.formElement scene.key scene.serverOffset boxes place).tag ≠ "p" := by
    rw [Page.tag_formElement]
    cases place with
    | container home => exact (noContainer home rfl).elim
    | root | body | input | box => simp [Place.tag]
  rw [mirrored.document_eq, Page.form,
    Forest.contents_decorate_layout noneAfter noneInside (fun _ => Page.tag_formElement _) others,
    mirrored.rows_eq]
  simp only [Page.key_formElement]

theorem Mirrored.containers_view
    (mirrored : Mirrored scene base boxes spans blocks bench browser)
    (plain : scene.settings.Plain) :
    browser.view.containers = bench.page.view.once.containers := by
  apply List.ext_getElem?
  intro home
  have pageEq := mirrored.page_eq
  have rowEq : scene.rows[home]? = (base.containers[home]?).map Container.numbers := by
    rw [← mirrored.rows_eq, Page.rows, List.getElem?_map]
  rw [view, mirrored.contents_eq, PageView.once, Page.view, List.getElem?_map,
    List.getElem?_mapIdx, List.getElem?_map, List.getElem?_map, rowEq]
  cases placed : base.containers[home]? with
  | none =>
      have missing : bench.page.containers[home]? = none := by
        rw [pageEq, Page.decorated, List.getElem?_mapIdx, placed]
        rfl
      rw [missing]
      rfl
  | some container =>
      have found : bench.page.containers[home]? =
          some (container.decorated (scene.links spans) (scene.notes blocks home)) := by
        rw [pageEq, Page.getElem?_decorated placed]
      have nodesEq := mirrored.plain container (List.mem_of_getElem? placed)
      have shownEq := mirrored.shown_container plain (rowEq.trans (by rw [placed]; rfl))
      rw [found]
      simp only [Option.map_some]
      rw [shownEq, Container.decorated, nodesEq, List.map_map]
      rfl

theorem Mirrored.isHidden_view (mirrored : Mirrored scene base boxes spans blocks bench browser)
    (id : String) : browser.view.isHidden id = bench.page.view.isHidden id := by
  let picks (element : Element) : Bool := element.id? == some id && element.hidden
  have filterEq : browser.document.elements.filter picks =
      (base.form scene.key scene.serverOffset boxes).elements.filter picks :=
    mirrored.filter_eq (fun _ _ _ => ⟨rfl, rfl⟩) fun _ _ _ => rfl
  have anyEq (elements : List Element) :
      elements.any picks = (elements.filter picks).any fun _ => true := by
    simp only [List.any_filter, Bool.and_true]
  have inDocument : browser.view.isHidden id = boxes.contains (id, true) := by
    have hiddenEq := anyEq browser.document.elements
    rw [filterEq, ← anyEq] at hiddenEq
    exact hiddenEq.trans (Page.any_hidden_form id)
  have onPage : bench.page.view.isHidden id = base.hidden.contains id := by
    rw [mirrored.page_eq]
    rfl
  rw [inDocument, onPage, Bool.eq_iff_iff, List.contains_iff_mem, List.contains_iff_mem,
    mirrored.hidden_mem]

/-- The same is seen of pages that mirror each other, with each class of a note once. -/
theorem Mirrored.view_eq (mirrored : Mirrored scene base boxes spans blocks bench browser)
    (plain : scene.settings.Plain) : browser.view = bench.page.view.once :=
  PageView.ext (mirrored.containers_view plain) (funext mirrored.isHidden_view)

/-- When notes have two classes, nothing is seen twice of any note. -/
theorem Mirrored.once_view (mirrored : Mirrored scene base boxes spans blocks bench browser)
    (apart : scene.settings.noteClass ≠ scene.settings.helpClass) :
    bench.page.view.once = bench.page.view := by
  have classesEq : scene.settings.noteClasses.eraseDups = scene.settings.noteClasses := by
    simp [Settings.noteClasses, List.eraseDups_cons, apart]
  have onceEq : ∀ container ∈ bench.page.containers, ∀ node ∈ container.nodes,
      (bench.page.shownNode node).once = bench.page.shownNode node := by
    intro container isContainer node isNode
    cases node with
    | input number =>
        rw [Page.shownNode]
        split <;> rfl
    | shortcut shortcut => rfl
    | note note =>
        obtain ⟨home, placed⟩ := List.getElem?_of_mem isContainer
        rw [mirrored.page_eq, Page.decorated, List.getElem?_mapIdx] at placed
        obtain ⟨before, found, rfl⟩ := Option.map_eq_some_iff.mp placed
        rw [Container.decorated, mirrored.plain before (List.mem_of_getElem? found)] at isNode
        have isNote : note ∈ scene.notes blocks home := by
          simpa [PageNode.withLinks] using isNode
        obtain ⟨block, -, rfl⟩ := List.mem_map.mp isNote
        exact congrArg (ShownNode.note · block.2.2) classesEq
  apply PageView.ext
  · rw [PageView.once, Page.view, List.map_map]
    apply List.map_congr_left
    intro container isContainer
    rw [Function.comp_apply, List.map_map]
    apply List.map_congr_left
    exact onceEq container isContainer
  · rfl

/-- The links of the document are those of the page, in the same order. -/
theorem Mirrored.links_eq (mirrored : Mirrored scene base boxes spans blocks bench browser) :
    browser.links.map Element.action =
      bench.page.shortcuts.map fun shortcut => some shortcut.action := by
  have unlinked : base.shortcuts = [] := by
    rw [Page.shortcuts, List.flatMap_eq_nil_iff]
    intro container member
    rw [mirrored.plain container member, List.filterMap_map, List.filterMap_eq_nil_iff]
    exact fun _ _ => rfl
  have notHere : ∀ element ∈ (base.form scene.key scene.serverOffset boxes).elements,
      (element.tag == "a") = false := by
    intro element member
    obtain ⟨place, -, rfl⟩ := Page.mem_elements_form member
    rw [Page.tag_formElement]
    cases place <;> rfl
  have notInside : ∀ key, ∀ element ∈ (noteRow (blocks key)).elements,
      (element.tag == "a") = false := by
    intro key element member
    rw [elements_noteRow] at member
    obtain ⟨block, -, rfl⟩ := List.mem_map.mp member
    rfl
  have anchorsEq (key : Nat) :
      ((linkRow (spans key)).elements.filter fun element => element.tag == "a").map
        Element.action = (spans key).map fun span => some span.2.action := by
    rw [elements_linkRow]
    induction spans key with
    | nil => rfl
    | cons span rest ih =>
        rw [List.flatMap_cons, List.filter_append, List.map_append, ih]
        rfl
  rw [links, mirrored.document_eq, Forest.filter_decorate_after notHere notInside,
    List.map_flatMap]
  simp only [anchorsEq]
  rw [Page.form, Forest.flatMap_closing_layout, mirrored.page_eq,
    Page.shortcuts_decorated unlinked, Page.inputOrder_eq_flatten, List.map_flatMap]
  · simp only [Page.key_formElement, Scene.links, List.map_map]
    rfl
  · intro place noInput
    rw [Page.key_formElement, mirrored.spans_only place noInput]
    rfl

end Mirrored

end QuickFill
