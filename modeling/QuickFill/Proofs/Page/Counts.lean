import QuickFill.Proofs.Page.Start
import QuickFill.Proofs.Page.Tags

/-!
# Counting what stands on a page

A start reports how many links and notes it put on a page.  On a page that held inputs only,
these are the links and notes that stand there afterwards.
-/

namespace QuickFill

def PageNode.tag : PageNode → Tag
  | .input _ => .input
  | .shortcut _ => .span
  | .note _ => .div

def Container.number (container : Container) (tag : Tag) : Nat :=
  container.nodes.countP fun node => node.tag = tag

namespace Container

theorem number_input (container : Container) :
    container.number .input = container.numbers.length := by
  rw [number, numbers]
  induction container.nodes with
  | nil => rfl
  | cons node rest ih =>
      rw [List.countP_cons, ih, List.filterMap_cons]
      cases node <;> rfl

variable {container : Container} {links : Nat → List Shortcut} {notes : List Note}

/-- The links after inputs are the only links in a container that held inputs only. -/
theorem number_span_decorated (plain : container.nodes = container.numbers.map .input) :
    (container.decorated links notes).number .span =
      (container.numbers.flatMap links).length := by
  have linked (numbers : List Nat) :
      ((numbers.map PageNode.input).flatMap (PageNode.withLinks links)).countP
        (fun node => node.tag = .span) = (numbers.flatMap links).length := by
    induction numbers with
    | nil => rfl
    | cons number rest ih =>
        have own : ((links number).map PageNode.shortcut).countP (fun node => node.tag = .span) =
            (links number).length := by
          simp [List.countP_map, Function.comp_def, PageNode.tag]
        rw [List.map_cons, List.flatMap_cons, List.countP_append, ih, List.flatMap_cons,
          List.length_append, PageNode.withLinks, List.countP_cons, own]
        rfl
  have noted : (notes.map PageNode.note).countP (fun node => node.tag = .span) = 0 := by
    simp [List.countP_map, Function.comp_def, PageNode.tag]
  rw [number, decorated, List.countP_append, plain, linked, noted, Nat.add_zero]

theorem number_div_decorated (plain : container.nodes = container.numbers.map .input) :
    (container.decorated links notes).number .div = notes.length := by
  have linked (numbers : List Nat) :
      ((numbers.map PageNode.input).flatMap (PageNode.withLinks links)).countP
        (fun node => node.tag = .div) = 0 := by
    rw [List.countP_eq_zero]
    intro node member
    obtain ⟨origin, isInput, among⟩ := List.mem_flatMap.mp member
    obtain ⟨number, -, rfl⟩ := List.mem_map.mp isInput
    rcases List.mem_cons.mp among with rfl | isLink
    · simp [PageNode.tag]
    · obtain ⟨shortcut, -, rfl⟩ := List.mem_map.mp isLink
      simp [PageNode.tag]
  have noted : (notes.map PageNode.note).countP (fun node => node.tag = .div) =
      notes.length := by
    simp [List.countP_map, Function.comp_def, PageNode.tag]
  rw [number, decorated, List.countP_append, plain, linked, noted, Nat.zero_add]

end Container

namespace Page

variable {page : Page} {links : Nat → List Shortcut} {notes : Nat → List Note}

/-- The things of a kind in the containers of a page. -/
def number (page : Page) (tag : Tag) : Nat :=
  (page.containers.flatMap Container.nodes).countP fun node => node.tag = tag

/-- All that stands in the containers of a well-formed page is shown. -/
theorem WellFormed.number_visible (formed : page.WellFormed) (tag : Tag) :
    page.visible.number tag = page.number tag := by
  have nodesEq : page.visible.containers.flatMap VisibleContainer.nodes =
      (page.containers.flatMap Container.nodes).filterMap page.visibleNode? := by
    rw [visible, List.flatMap_map, List.filterMap_flatMap]
    rfl
  rw [VisiblePage.number, number, nodesEq, List.countP_filterMap]
  apply List.countP_congr
  intro node member
  obtain ⟨container, inPage, inContainer⟩ := List.mem_flatMap.mp member
  obtain ⟨visibleNode, isShown⟩ :=
    Option.isSome_iff_exists.mp (formed.visibleNode?_isSome inPage inContainer)
  have tagEq : visibleNode.tag = node.tag := by
    cases node with
    | input number =>
        obtain ⟨input, -, rfl⟩ := Option.map_eq_some_iff.mp isShown
        rfl
    | shortcut shortcut =>
        obtain rfl := Option.some.inj isShown
        rfl
    | note note =>
        obtain rfl := Option.some.inj isShown
        rfl
  rw [isShown, Option.map_some, Option.getD_some, tagEq]

theorem number_input (page : Page) : page.number .input = page.inputOrder.length := by
  rw [inputOrder_eq_flatten, rows, ← List.flatMap_def, number]
  induction page.containers with
  | nil => rfl
  | cons container rest ih =>
      rw [List.flatMap_cons, List.countP_append, ih, List.flatMap_cons, List.length_append,
        ← container.number_input]
      rfl

/-- On a decorated page that held inputs only, every link was put after an input. -/
theorem number_span_decorated
    (plain : ∀ container ∈ page.containers, container.nodes = container.numbers.map .input) :
    (page.decorated links notes).number .span = (page.inputOrder.flatMap links).length := by
  have each (containers : List Container)
      (plain : ∀ container ∈ containers, container.nodes = container.numbers.map .input) :
      ((containers.mapIdx fun home container =>
        container.decorated links (notes home)).flatMap Container.nodes).countP
          (fun node => node.tag = .span) =
        ((containers.flatMap Container.numbers).flatMap links).length := by
    induction containers using List.reverseRecOn with
    | nil => rfl
    | append_singleton front last ih =>
        have own : (last.decorated links (notes front.length)).nodes.countP
            (fun node => node.tag = .span) = (last.numbers.flatMap links).length :=
          Container.number_span_decorated (plain last (by simp))
        rw [List.mapIdx_concat, List.flatMap_append, List.flatMap_singleton, List.countP_append,
          own, ih fun other member => plain other (List.mem_append_left _ member),
          List.flatMap_append, List.flatMap_append, List.flatMap_singleton, List.length_append]
  rw [inputOrder_eq_flatten, rows, ← List.flatMap_def]
  exact each page.containers plain

/-- On a decorated page that held inputs only, every note was put at the end of a container. -/
theorem number_div_decorated
    (plain : ∀ container ∈ page.containers, container.nodes = container.numbers.map .input) :
    (page.decorated links notes).number .div =
      ((List.range page.containers.length).flatMap notes).length := by
  have each (containers : List Container)
      (plain : ∀ container ∈ containers, container.nodes = container.numbers.map .input) :
      ((containers.mapIdx fun home container =>
        container.decorated links (notes home)).flatMap Container.nodes).countP
          (fun node => node.tag = .div) =
        ((List.range containers.length).flatMap notes).length := by
    induction containers using List.reverseRecOn with
    | nil => rfl
    | append_singleton front last ih =>
        have own : (last.decorated links (notes front.length)).nodes.countP
            (fun node => node.tag = .div) = (notes front.length).length :=
          Container.number_div_decorated (plain last (by simp))
        rw [List.mapIdx_concat, List.flatMap_append, List.flatMap_singleton, List.countP_append,
          own, ih fun other member => plain other (List.mem_append_left _ member),
          List.length_append, List.length_singleton, List.range_succ, List.flatMap_append,
          List.flatMap_singleton, List.length_append]
  exact each page.containers plain

end Page

namespace PageSession

/-- Each input of a known kind gets one link. -/
theorem length_startLinks (before : PageSession) (dealt : List Nat) :
    (dealt.flatMap (startLinks before dealt)).length =
      (linked before dealt .clock).length + (linked before dealt .calendar).length := by
  have some (numbers : List Nat) (dealtWith : ∀ number ∈ numbers, number ∈ dealt) :
      (numbers.flatMap (startLinks before dealt)).length =
        (linked before numbers .clock).length + (linked before numbers .calendar).length := by
    induction numbers with
    | nil => rfl
    | cons number rest ih =>
        have member := dealtWith number List.mem_cons_self
        have restEq := ih fun other inRest => dealtWith other (List.mem_cons_of_mem _ inRest)
        rw [List.flatMap_cons, List.length_append, restEq, linked, linked, linked, linked,
          List.filter_cons, List.filter_cons, startLinks]
        cases fieldKind? before number with
        | none => simp
        | some kind => cases kind <;> simp [member, FieldKind.linkKind] <;> omega
  exact some dealt fun _ member => member

/-- Each container that is due a note gets one. -/
theorem length_startNotes (before : PageSession) (dealt : List Nat) :
    ((List.range before.page.page.containers.length).flatMap (startNotes before dealt)).length =
      (notedHomes before dealt).card := by
  have some (homes : List Nat) :
      (homes.flatMap (startNotes before dealt)).length =
        (homes.filter fun home => home ∈ notedHomes before dealt).length := by
    induction homes with
    | nil => rfl
    | cons home rest ih =>
        rw [List.flatMap_cons, List.length_append, ih, startNotes, List.filter_cons]
        by_cases isNoted : home ∈ notedHomes before dealt
        · obtain ⟨note, due⟩ := Option.isSome_iff_exists.mp (mem_notedHomes.mp isNoted).2.1
          simp [isNoted, due, Nat.add_comm]
        · simp [isNoted]
  have inPage : (Finset.range before.page.page.containers.length).filter
      (fun home => home ∈ notedHomes before dealt) = notedHomes before dealt := by
    rw [Finset.filter_mem_eq_inter]
    exact Finset.inter_eq_right.mpr (Finset.filter_subset _ _)
  rw [some, ← congrArg Finset.card inPage]
  rfl

end PageSession

end QuickFill
