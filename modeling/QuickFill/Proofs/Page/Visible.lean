import QuickFill.Page.Render
import QuickFill.Proofs.Page.WellFormed
import QuickFill.Proofs.Text.Escape

/-!
# What a rendered page shows

A rendered page shows its containers with their inputs, links and notes, and its
calendar boxes.  The markup can be read in one way only: what a page shows can be told
from its markup, whatever the texts on the page are.
-/

namespace QuickFill

/-- What is shown of one thing in a container; the classes of an input or a note are
shown as one text. -/
inductive VisibleNode where
  | input (id type classes value : String) (focused : Bool)
  | shortcut (spanClass label : String)
  | note (classes text : String)
  deriving DecidableEq, Repr

structure VisibleContainer where
  name : String
  nodes : List VisibleNode
  deriving DecidableEq, Repr

/-- What is shown of a page: the containers, and the calendar boxes with whether they
are hidden. -/
structure VisiblePage where
  containers : List VisibleContainer
  boxes : List (String × Bool)
  deriving DecidableEq, Repr

namespace Page

def visibleNode? (page : Page) : PageNode → Option VisibleNode
  | .input number => page.inputs[number]?.map fun input =>
      .input input.id input.type (" ".intercalate input.classes) input.value
        (page.focused == some number)
  | .shortcut shortcut => some (.shortcut shortcut.spanClass shortcut.label)
  | .note note => some (.note (" ".intercalate note.classes) note.text)

def visibleContainer (page : Page) (container : Container) : VisibleContainer :=
  ⟨container.name, container.nodes.filterMap page.visibleNode?⟩

/-- What a page shows, its calendar boxes in the order of their ids. -/
def visible (page : Page) : VisiblePage where
  containers := page.containers.map page.visibleContainer
  boxes := (sortedNames page.boxes).map fun id => (id, page.isHidden id)

/-- Every node of a well-formed page is shown. -/
theorem WellFormed.visibleNode?_isSome {page : Page} (formed : page.WellFormed)
    {container : Container} (inPage : container ∈ page.containers) {node : PageNode}
    (inContainer : node ∈ container.nodes) : (page.visibleNode? node).isSome := by
  cases node with
  | input number =>
      obtain ⟨home, placed⟩ := List.getElem?_of_mem inPage
      have rowFound : page.rows[home]? = some container.numbers := by
        rw [rows, List.getElem?_map, placed, Option.map_some]
      have inRow : number ∈ container.numbers :=
        List.mem_filterMap.mpr ⟨.input number, inContainer, rfl⟩
      obtain ⟨input, found, -⟩ := homes_eq_some (formed.home_of_mem rowFound inRow)
      rw [visibleNode?, found]
      rfl
  | shortcut shortcut => rfl
  | note note => rfl

end Page

/-! ### Names in order -/

theorem insertName_of_forall_lt {name : String} {names : List String}
    (greatest : ∀ other ∈ names, other < name) : insertName name names = names ++ [name] := by
  induction names with
  | nil => rfl
  | cons first rest ih =>
      have firstLt := greatest first List.mem_cons_self
      have notBefore : ¬ name < first := String.lt_asymm firstLt
      have differs : name ≠ first := by
        rintro rfl
        exact String.lt_irrefl name firstLt
      rw [insertName, if_neg notBefore, if_neg differs,
        ih fun other member => greatest other (List.mem_cons_of_mem _ member), List.cons_append]

theorem insertName_sorted (name : String) {names : List String}
    (sorted : names.Pairwise (· < ·)) : (insertName name names).Pairwise (· < ·) := by
  induction names with
  | nil => simp [insertName]
  | cons first rest ih =>
      obtain ⟨firstLt, restSorted⟩ := List.pairwise_cons.mp sorted
      rw [insertName]
      split
      · next before =>
        refine List.pairwise_cons.mpr ⟨?_, sorted⟩
        intro other member
        rcases List.mem_cons.mp member with rfl | inRest
        · exact before
        · exact String.lt_trans before (firstLt other inRest)
      · next notBefore =>
        split
        · exact sorted
        · next differs =>
          refine List.pairwise_cons.mpr ⟨?_, ih restSorted⟩
          intro other member
          rcases mem_insertName.mp member with rfl | inRest
          · exact String.not_le.mp fun le =>
              differs (String.le_antisymm le (String.not_lt.mp notBefore))
          · exact firstLt other inRest

theorem sortedNames_sorted (names : List String) : (sortedNames names).Pairwise (· < ·) := by
  have grows (rest sorted : List String) (before : sorted.Pairwise (· < ·)) :
      (rest.foldl (fun sorted name => insertName name sorted) sorted).Pairwise (· < ·) := by
    induction rest generalizing sorted with
    | nil => exact before
    | cons name rest ih => exact ih _ (insertName_sorted name before)
  exact grows names [] List.Pairwise.nil

/-- Names that are in order stay as they are. -/
theorem sortedNames_eq_self {names : List String} (sorted : names.Pairwise (· < ·)) :
    sortedNames names = names := by
  have grows (front back : List String) (whole : (front ++ back).Pairwise (· < ·)) :
      back.foldl (fun sorted name => insertName name sorted) front = front ++ back := by
    induction back generalizing front with
    | nil => rw [List.append_nil]; rfl
    | cons name rest ih =>
        have before : ∀ other ∈ front, other < name := fun other member =>
          (List.pairwise_append.mp whole).2.2 other member name List.mem_cons_self
        rw [List.foldl_cons, insertName_of_forall_lt before, ih (front ++ [name])]
        · simp
        · simpa using whole
  exact grows [] names sorted

namespace Page

/-- A change shows one more calendar box, or leaves the boxes as they are. -/
theorem boxes_after (page : Page) (change : PageChange) :
    (page.after change).boxes = page.boxes ∨
      ∃ id, (page.after change).boxes = insertName id page.boxes := by
  cases change with
  | addInput container id type classes =>
      left
      rw [after, addInputIn, ensureContainer]
      cases page.containerNumber? container <;> rfl
  | setStep number step => exact Or.inl rfl
  | showBox id => exact Or.inr ⟨id, rfl⟩
  | insertShortcut number shortcut =>
      left
      rw [after, insertShortcut_eq]
      split <;> rfl
  | appendNote number note =>
      left
      rw [after, appendNote_eq]
      split <;> rfl
  | write number value =>
      left
      rw [after, write_eq]
      split <;> rfl
  | focus number =>
      left
      rw [after, focus_eq]
      split <;> rfl
  | hide id =>
      left
      rw [after, Page.hide]
      split <;> rfl

theorem Reachable.boxes_sorted {page : Page} (reachable : page.Reachable) :
    page.boxes.Pairwise (· < ·) := by
  induction reachable with
  | described fixture => exact sortedNames_sorted fixture.boxes
  | @changed page change _ ih =>
      rcases boxes_after page change with same | ⟨id, inserted⟩
      · rw [same]
        exact ih
      · rw [inserted]
        exact insertName_sorted id ih

end Page

/-! ### Markup of what is shown -/

open Text

namespace VisibleNode

def opening : VisibleNode → String
  | .input .. => "  <input id=\""
  | .shortcut .. => "  <span class=\""
  | .note .. => "  <div class=\""

/-- The texts that are shown, each with the fixed text that comes after it. -/
def parts : VisibleNode → List (String × String)
  | .input id type classes value _ =>
    [(id, "\" type=\""), (type, "\" class=\""), (classes, "\" value=\""), (value, "\"")]
  | .shortcut spanClass label => [(spanClass, "\">&nbsp;<a href=\"#\">"), (label, "</a></span>\n")]
  | .note classes text => [(classes, "\">"), (text, "</div>\n")]

def closing : VisibleNode → String
  | .input _ _ _ _ true => " autofocus>\n"
  | .input _ _ _ _ false => ">\n"
  | _ => ""

def markup (node : VisibleNode) : String :=
  node.opening ++ woven node.parts ++ node.closing

/-- The kind of a node is known from its first characters. -/
theorem opening_append_inj {first second : VisibleNode} {rest others : List Char}
    (equal : first.opening.toList ++ rest = second.opening.toList ++ others) :
    first.parts.map Prod.snd = second.parts.map Prod.snd ∧ rest = others := by
  cases first <;> cases second <;> simp_all [opening, parts]

theorem startsMarked_parts (node : VisibleNode) : ∀ part ∈ node.parts, startsMarked part.2 := by
  cases node <;> simp [parts, startsMarked, isEndMark]

theorem eq_of_parts {first second : VisibleNode} {rest others : List Char}
    (partsEq : first.parts = second.parts)
    (equal : first.closing.toList ++ rest = second.closing.toList ++ others) :
    first = second ∧ rest = others := by
  cases first with
  | input id type classes value focused =>
      cases second with
      | input otherId otherType otherClasses otherValue otherFocused =>
          cases focused <;> cases otherFocused <;> simp_all [parts, closing]
      | shortcut spanClass label => simp [parts] at partsEq
      | note classes text => simp [parts] at partsEq
  | shortcut spanClass label => cases second <;> simp_all [parts, closing]
  | note classes text => cases second <;> simp_all [parts, closing]

/-- A node and what follows it are known from the markup of both. -/
theorem markup_append_inj {first second : VisibleNode} {rest others : List Char}
    (equal : first.markup.toList ++ rest = second.markup.toList ++ others) :
    first = second ∧ rest = others := by
  simp only [markup, String.toList_append, List.append_assoc] at equal
  obtain ⟨shape, written⟩ := opening_append_inj equal
  obtain ⟨partsEq, closed⟩ := woven_append_inj written shape first.startsMarked_parts
  exact eq_of_parts partsEq closed

end VisibleNode

/-- Rows of items are known from the whole when each item is known from its code and what
follows it, and no code can be taken for the start of what follows the row. -/
theorem flatMap_append_inj {α : Type} {code : α → List Char} {isTail : List Char → Prop}
    (unique : ∀ {item other : α} {rest others : List Char},
      code item ++ rest = code other ++ others → item = other ∧ rest = others)
    (apart : ∀ {item : α} {rest tail : List Char}, isTail tail → code item ++ rest ≠ tail)
    {items others : List α} {tail otherTail : List Char} (ends : isTail tail)
    (otherEnds : isTail otherTail)
    (equal : items.flatMap code ++ tail = others.flatMap code ++ otherTail) :
    items = others ∧ tail = otherTail := by
  induction items generalizing others with
  | nil =>
      cases others with
      | nil => exact ⟨rfl, equal⟩
      | cons other others =>
          rw [List.flatMap_cons, List.append_assoc] at equal
          exact (apart ends equal.symm).elim
  | cons item items ih =>
      cases others with
      | nil =>
          rw [List.flatMap_cons, List.append_assoc] at equal
          exact (apart otherEnds equal).elim
      | cons other others =>
          rw [List.flatMap_cons, List.flatMap_cons, List.append_assoc, List.append_assoc] at equal
          obtain ⟨rfl, restEq⟩ := unique equal
          obtain ⟨rfl, tailEq⟩ := ih restEq
          exact ⟨rfl, tailEq⟩

namespace VisibleContainer

def markup (container : VisibleContainer) : String :=
  "<div data-container=\"" ++ woven [(container.name, "\">\n")] ++
    String.join (container.nodes.map VisibleNode.markup) ++ "</div>\n"

theorem toList_markup (container : VisibleContainer) :
    container.markup.toList = "<div data-container=\"".toList ++
      ((woven [(container.name, "\">\n")]).toList ++
        (container.nodes.flatMap (fun node => node.markup.toList) ++ "</div>\n".toList)) := by
  -- To state the equation of the definition, Lean would evaluate its fixed texts.
  delta markup
  simp only [String.toList_append, List.append_assoc, String.toList_join, List.flatMap_map]

theorem markup_append_inj {first second : VisibleContainer} {rest others : List Char}
    (equal : first.markup.toList ++ rest = second.markup.toList ++ others) :
    first = second ∧ rest = others := by
  obtain ⟨name, nodes⟩ := first
  obtain ⟨otherName, otherNodes⟩ := second
  simp only [toList_markup, List.append_assoc, List.append_cancel_left_eq] at equal
  obtain ⟨nameEq, nodesFollow⟩ :=
    woven_append_inj equal rfl (by simp [startsMarked, isEndMark])
  let isTail (tail : List Char) : Prop := ∃ rest, tail = "</div>\n".toList ++ rest
  have apart {node : VisibleNode} {rest tail : List Char} (ends : isTail tail) :
      node.markup.toList ++ rest ≠ tail := by
    obtain ⟨more, rfl⟩ := ends
    cases node <;> simp [VisibleNode.markup, VisibleNode.opening]
  obtain ⟨rfl, tailEq⟩ := flatMap_append_inj VisibleNode.markup_append_inj apart ⟨rest, rfl⟩
    ⟨others, rfl⟩ nodesFollow
  simp_all

end VisibleContainer

namespace VisiblePage

def boxMarkup (box : String × Bool) : String :=
  "<div id=\"" ++ woven [(box.1, "\" style=\"display: ")] ++
    (if box.2 then "none" else "block") ++ "\"></div>\n"

def markup (page : VisiblePage) : String :=
  String.join (page.containers.map VisibleContainer.markup) ++
    String.join (page.boxes.map boxMarkup)

theorem toList_boxMarkup (box : String × Bool) :
    (boxMarkup box).toList = "<div id=\"".toList ++
      ((woven [(box.1, "\" style=\"display: ")]).toList ++
        ((if box.2 then "none" else "block").toList ++ "\"></div>\n".toList)) := by
  delta boxMarkup
  simp only [String.toList_append, List.append_assoc]

theorem boxMarkup_append_inj {first second : String × Bool} {rest others : List Char}
    (equal : (boxMarkup first).toList ++ rest = (boxMarkup second).toList ++ others) :
    first = second ∧ rest = others := by
  obtain ⟨id, isHidden⟩ := first
  obtain ⟨otherId, otherHidden⟩ := second
  simp only [toList_boxMarkup, List.append_assoc, List.append_cancel_left_eq] at equal
  obtain ⟨idEq, shownEq⟩ := woven_append_inj equal rfl (by simp [startsMarked, isEndMark])
  cases isHidden <;> cases otherHidden <;> simp_all

/-- What is shown can be told from the markup. -/
theorem markup_injective {first second : VisiblePage} (equal : first.markup = second.markup) :
    first = second := by
  obtain ⟨containers, boxes⟩ := first
  obtain ⟨otherContainers, otherBoxes⟩ := second
  have chars := congrArg String.toList equal
  simp only [markup, String.toList_append, String.toList_join, List.flatMap_map] at chars
  let isTail (tail : List Char) : Prop :=
    ∃ boxes, tail = List.flatMap (fun box => (boxMarkup box).toList) boxes
  have apart {container : VisibleContainer} {rest tail : List Char} (ends : isTail tail) :
      container.markup.toList ++ rest ≠ tail := by
    obtain ⟨boxes, rfl⟩ := ends
    cases boxes with
    | nil => simp [VisibleContainer.toList_markup]
    | cons box boxes => simp [VisibleContainer.toList_markup, toList_boxMarkup]
  obtain ⟨rfl, boxesEq⟩ := flatMap_append_inj VisibleContainer.markup_append_inj apart
    ⟨boxes, rfl⟩ ⟨otherBoxes, rfl⟩ chars
  have ends {box : String × Bool} {rest tail : List Char} (nothing : tail = []) :
      (boxMarkup box).toList ++ rest ≠ tail := by
    simp [nothing, toList_boxMarkup]
  rw [← List.append_nil (boxes.flatMap _), ← List.append_nil (otherBoxes.flatMap _)] at boxesEq
  obtain ⟨rfl, -⟩ := flatMap_append_inj boxMarkup_append_inj ends rfl rfl boxesEq
  rfl

end VisiblePage

/-! ### Rendered pages -/

namespace Page

theorem renderInput_eq (input : Input) (focused : Bool) :
    renderInput input focused = (VisibleNode.input input.id input.type
      (" ".intercalate input.classes) input.value focused).markup := by
  delta renderInput
  cases focused <;>
    simp [VisibleNode.markup, VisibleNode.opening, VisibleNode.parts, VisibleNode.closing, woven,
      String.append_assoc]

theorem renderShortcut_eq (shortcut : Shortcut) :
    renderShortcut shortcut =
      (VisibleNode.shortcut shortcut.spanClass shortcut.label).markup := by
  delta renderShortcut
  simp [VisibleNode.markup, VisibleNode.opening, VisibleNode.parts, VisibleNode.closing, woven,
    String.append_assoc]

theorem renderNote_eq (note : Note) :
    renderNote note = (VisibleNode.note (" ".intercalate note.classes) note.text).markup := by
  delta renderNote
  simp [VisibleNode.markup, VisibleNode.opening, VisibleNode.parts, VisibleNode.closing, woven,
    String.append_assoc]

theorem renderNode_eq (page : Page) (node : PageNode) :
    page.renderNode node = (page.visibleNode? node).elim "" VisibleNode.markup := by
  cases node with
  | input number =>
      rw [renderNode, visibleNode?]
      cases page.inputs[number]? with
      | none => rfl
      | some input => exact renderInput_eq input _
  | shortcut shortcut => exact renderShortcut_eq shortcut
  | note note => exact renderNote_eq note

theorem join_renderNode (page : Page) (nodes : List PageNode) :
    String.join (nodes.map page.renderNode) =
      String.join ((nodes.filterMap page.visibleNode?).map VisibleNode.markup) := by
  induction nodes with
  | nil => rfl
  | cons node rest ih =>
      rw [List.map_cons, String.join_cons, ih, renderNode_eq, List.filterMap_cons]
      cases page.visibleNode? node with
      | none => exact String.empty_append
      | some shown => rw [Option.elim_some, List.map_cons, String.join_cons]

theorem renderContainer_eq (page : Page) (container : Container) :
    page.renderContainer container = (page.visibleContainer container).markup := by
  delta renderContainer VisibleContainer.markup
  rw [join_renderNode]
  simp [visibleContainer, woven, String.append_assoc]

theorem renderBox_eq (page : Page) (id : String) :
    page.renderBox id = VisiblePage.boxMarkup (id, page.isHidden id) := by
  delta renderBox VisiblePage.boxMarkup
  simp [woven, String.append_assoc]

/-- A page is rendered as the markup of what it shows, when its boxes are in order. -/
theorem render_eq_of_sorted {page : Page} (sorted : page.boxes.Pairwise (· < ·)) :
    page.render = page.visible.markup := by
  have containersEq : page.containers.map page.renderContainer =
      page.visible.containers.map VisibleContainer.markup := by
    rw [visible, List.map_map]
    exact List.map_congr_left fun container _ => page.renderContainer_eq container
  have boxesEq : page.boxes.map page.renderBox =
      page.visible.boxes.map VisiblePage.boxMarkup := by
    rw [visible, sortedNames_eq_self sorted, List.map_map]
    exact List.map_congr_left fun id _ => page.renderBox_eq id
  rw [render, containersEq, boxesEq]
  rfl

theorem Reachable.render_eq {page : Page} (reachable : page.Reachable) :
    page.render = page.visible.markup :=
  render_eq_of_sorted reachable.boxes_sorted

/-- Pages are rendered alike just when they show the same: no text on a page can add,
hide or change a node of its markup. -/
theorem render_eq_iff {first second : Page} (reachable : first.Reachable)
    (otherReachable : second.Reachable) :
    first.render = second.render ↔ first.visible = second.visible := by
  rw [reachable.render_eq, otherReachable.render_eq]
  exact ⟨VisiblePage.markup_injective, congrArg VisiblePage.markup⟩

/-- A page with one input, whose value imitates the markup of a second one. -/
def imitating : Page :=
  let value := "\">\n  <input id=\"b\" type=\"text\" class=\"\" value=\"&quot;"
  ofFixture { fields := [{ id := "a", type := "text", container := some "form", value := value }] }

/-- A page with that second input. -/
def imitated : Page :=
  ofFixture { fields := [{ id := "a", type := "text", container := some "form" },
    { id := "b", type := "text", container := some "form", value := "\"" }] }

theorem render_imitating_ne :
    imitating.Reachable ∧ imitated.Reachable ∧ imitating.render ≠ imitated.render := by
  have reachable : imitating.Reachable := .described _
  have otherReachable : imitated.Reachable := .described _
  refine ⟨reachable, otherReachable, ?_⟩
  rw [Ne, render_eq_iff reachable otherReachable]
  decide +kernel

end Page

end QuickFill
