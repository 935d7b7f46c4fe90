import QuickFill.Proofs.Page.WellFormed
import Mathlib.Logic.Function.Basic

/-!
# Decorated pages

What a session puts on a page are links right after inputs and notes at the ends of
containers.  A decorated page says which: its links are listed by the input that
they follow, the nearest first, and its notes by the container that they stand in.
Putting one more link or note on a decorated page decorates the same page with
one more link or note.
-/

namespace QuickFill

def PageNode.withLinks (links : Nat → List Shortcut) : PageNode → List PageNode
  | .input number => .input number :: (links number).map .shortcut
  | node => [node]

def Container.decorated (links : Nat → List Shortcut) (notes : List Note)
    (container : Container) : Container :=
  { container with
    nodes := container.nodes.flatMap (PageNode.withLinks links) ++ notes.map .note }

theorem mem_numbers {container : Container} {number : Nat} :
    number ∈ container.numbers ↔ .input number ∈ container.nodes := by
  rw [Container.numbers, List.mem_filterMap]
  constructor
  · rintro ⟨node, member, isInput⟩
    cases node with
    | input other =>
        obtain rfl := Option.some.inj isInput
        exact member
    | shortcut shortcut => cases isInput
    | note note => cases isInput
  · intro member
    exact ⟨.input number, member, rfl⟩

theorem filterMap_map_eq_nil {α : Type} (nodes : List α) {shown : α → PageNode}
    (noInput : ∀ node, (shown node).number? = none) :
    (nodes.map shown).filterMap PageNode.number? = [] := by
  simp [noInput]

theorem filterMap_withLinks (links : Nat → List Shortcut) (node : PageNode) :
    (node.withLinks links).filterMap PageNode.number? = node.number?.toList := by
  cases node with
  | input number =>
      have isInput : (PageNode.input number).number? = some number := rfl
      rw [PageNode.withLinks, List.filterMap_cons_some isInput,
        filterMap_map_eq_nil (links number) fun _ => rfl]
      rfl
  | shortcut shortcut => rfl
  | note note => rfl

theorem numbers_decorated (links : Nat → List Shortcut) (notes : List Note)
    (container : Container) :
    (container.decorated links notes).numbers = container.numbers := by
  rw [Container.numbers, Container.decorated, List.filterMap_append,
    filterMap_map_eq_nil notes fun _ => rfl, List.append_nil, Container.numbers]
  induction container.nodes with
  | nil => rfl
  | cons node rest ih =>
      rw [List.flatMap_cons, List.filterMap_append, ih, filterMap_withLinks]
      cases node <;> rfl

theorem flatMap_withLinks_congr {links others : Nat → List Shortcut} {nodes : List PageNode}
    (same : ∀ number, .input number ∈ nodes → links number = others number) :
    nodes.flatMap (PageNode.withLinks links) = nodes.flatMap (PageNode.withLinks others) := by
  rw [List.flatMap_def, List.flatMap_def]
  congr 1
  apply List.map_congr_left
  intro node member
  cases node with
  | input number => rw [PageNode.withLinks, PageNode.withLinks, same number member]
  | shortcut shortcut => rfl
  | note note => rfl

theorem notMem_withLinks {links : Nat → List Shortcut} {node : PageNode} {number : Nat}
    (differs : node ≠ .input number) : .input number ∉ node.withLinks links := by
  cases node with
  | input other => simpa [PageNode.withLinks, eq_comm] using differs
  | shortcut shortcut => simp [PageNode.withLinks]
  | note note => simp [PageNode.withLinks]

namespace Page

/-! ### Putting a link after an input -/

theorem insertAfter?_append {number : Nat} {shortcut : Shortcut} {front back : List PageNode}
    (absent : .input number ∉ front) :
    insertAfter? number shortcut (front ++ back) =
      (insertAfter? number shortcut back).map (front ++ ·) := by
  induction front with
  | nil => simp
  | cons node rest ih =>
      rw [List.mem_cons, not_or] at absent
      rw [List.cons_append, insertAfter?, if_neg (Ne.symm absent.1), ih absent.2, Option.map_map]
      rfl

/-- A link put right after an input stands before the links that are there. -/
theorem insertAfter?_withLinks {links : Nat → List Shortcut} {number : Nat} {shortcut : Shortcut}
    {nodes tail : List PageNode} (nodup : (nodes.filterMap PageNode.number?).Nodup)
    (member : .input number ∈ nodes) :
    insertAfter? number shortcut (nodes.flatMap (PageNode.withLinks links) ++ tail) =
      some (nodes.flatMap (PageNode.withLinks
        (Function.update links number (shortcut :: links number))) ++ tail) := by
  induction nodes with
  | nil => simp at member
  | cons node rest ih =>
      rw [List.flatMap_cons, List.flatMap_cons, List.append_assoc, List.append_assoc]
      by_cases same : node = .input number
      · subst same
        have absent : .input number ∉ rest := by
          intro again
          rw [List.filterMap_cons, PageNode.number?] at nodup
          exact (List.nodup_cons.mp nodup).1
            (List.mem_filterMap.mpr ⟨.input number, again, rfl⟩)
        have restEq : rest.flatMap (PageNode.withLinks
            (Function.update links number (shortcut :: links number))) =
              rest.flatMap (PageNode.withLinks links) := by
          apply flatMap_withLinks_congr
          intro other otherMember
          apply Function.update_of_ne
          rintro rfl
          exact absent otherMember
        rw [restEq]
        simp [PageNode.withLinks, insertAfter?]
      · have absent : .input number ∉ node.withLinks links := notMem_withLinks same
        have restMember : .input number ∈ rest := by
          rcases List.mem_cons.mp member with first | later
          · exact (same first.symm).elim
          · exact later
        have restNodup : (rest.filterMap PageNode.number?).Nodup := by
          rw [List.filterMap_cons] at nodup
          split at nodup
          · exact nodup
          · exact (List.nodup_cons.mp nodup).2
        have nodeEq : node.withLinks (Function.update links number (shortcut :: links number)) =
            node.withLinks links := by
          cases node with
          | input other =>
              have differs : other ≠ number := by simpa using same
              simp [PageNode.withLinks, Function.update_of_ne differs]
          | shortcut shortcut => rfl
          | note note => rfl
        rw [insertAfter?_append absent, ih restNodup restMember, nodeEq, Option.map_some]

theorem shortcutAfter?_append {number : Nat} {front back : List PageNode}
    (absent : .input number ∉ front) :
    shortcutAfter? number (front ++ back) = shortcutAfter? number back := by
  induction front with
  | nil => rfl
  | cons node rest ih =>
      rw [List.mem_cons, not_or] at absent
      rw [List.cons_append, ← ih absent.2]
      cases node with
      | input other =>
          have differs : other ≠ number := by
            rintro rfl
            exact absent.1 rfl
          exact if_neg differs
      | shortcut shortcut => rfl
      | note note => rfl

/-- The link right after an input is the nearest of its links. -/
theorem shortcutAfter?_withLinks {links : Nat → List Shortcut} {number : Nat}
    {shortcut : Shortcut} {more : List Shortcut} {nodes tail : List PageNode}
    (linked : links number = shortcut :: more) (member : .input number ∈ nodes) :
    shortcutAfter? number (nodes.flatMap (PageNode.withLinks links) ++ tail) = some shortcut := by
  induction nodes with
  | nil => simp at member
  | cons node rest ih =>
      rw [List.flatMap_cons, List.append_assoc]
      by_cases same : node = .input number
      · subst same
        rw [PageNode.withLinks, linked, List.map_cons, List.cons_append, List.cons_append,
          shortcutAfter?, if_pos rfl]
      · rw [shortcutAfter?_append (notMem_withLinks same)]
        rcases List.mem_cons.mp member with first | later
        · exact (same first.symm).elim
        · exact ih later

/-! ### Decorated pages -/

def decorated (page : Page) (links : Nat → List Shortcut) (notes : Nat → List Note) : Page :=
  { page with
    containers := page.containers.mapIdx fun home container =>
      container.decorated links (notes home) }

variable {page : Page} {links : Nat → List Shortcut} {notes : Nat → List Note}

theorem decorated_nothing (page : Page) :
    page.decorated (fun _ => []) (fun _ => []) = page := by
  have kept (container : Container) : container.decorated (fun _ => []) [] = container := by
    have nodesEq : container.nodes.flatMap (PageNode.withLinks fun _ => []) = container.nodes := by
      induction container.nodes with
      | nil => rfl
      | cons node rest ih =>
          rw [List.flatMap_cons, ih]
          cases node <;> rfl
    rw [Container.decorated, nodesEq, List.map_nil, List.append_nil]
  rw [decorated]
  simp only [kept]
  congr 1
  apply List.ext_getElem?
  intro place
  rw [List.getElem?_mapIdx, Option.map_id']

@[simp]
theorem rows_decorated : (page.decorated links notes).rows = page.rows := by
  apply List.ext_getElem?
  intro place
  rw [rows, rows, decorated, List.getElem?_map, List.getElem?_map, List.getElem?_mapIdx,
    Option.map_map]
  congr 1
  funext container
  exact numbers_decorated links (notes place) container

@[simp]
theorem homes_decorated : (page.decorated links notes).homes = page.homes :=
  rfl

theorem getElem?_decorated {home : Nat} {container : Container}
    (placed : page.containers[home]? = some container) :
    (page.decorated links notes).containers[home]? =
      some (container.decorated links (notes home)) := by
  rw [decorated, List.getElem?_mapIdx, placed, Option.map_some]

theorem modifyInput_decorated (number : Nat) (change : Input → Input) :
    (page.decorated links notes).modifyInput number change =
      (page.modifyInput number change).decorated links notes :=
  rfl

theorem hide_decorated (id : String) :
    (page.decorated links notes).hide id =
      if page.boxes.contains id then
        .ok ({ page with hidden := insertName id page.hidden }.decorated links notes)
      else .error (.noBox id) :=
  rfl

theorem WellFormed.exists_container (formed : page.WellFormed) {number : Nat}
    (inPage : number < page.inputs.length) :
    ∃ input container, page.inputs[number]? = some input ∧
      page.containers[input.home]? = some container ∧ .input number ∈ container.nodes := by
  have inOrder : number ∈ page.rows.flatten := by
    rw [formed.order_perm.mem_iff, List.mem_range, homes, List.length_map]
    exact inPage
  obtain ⟨row, rowMember, member⟩ := List.mem_flatten.mp inOrder
  obtain ⟨home, rowFound⟩ := List.getElem?_of_mem rowMember
  obtain ⟨input, found, rfl⟩ := homes_eq_some (formed.home_of_mem rowFound member)
  rw [rows, List.getElem?_map] at rowFound
  obtain ⟨container, placed, rfl⟩ := Option.map_eq_some_iff.mp rowFound
  exact ⟨input, container, found, placed, mem_numbers.mp member⟩

theorem WellFormed.numbers_nodup (formed : page.WellFormed) {home : Nat} {container : Container}
    (placed : page.containers[home]? = some container) : container.numbers.Nodup := by
  have orderNodup : page.rows.flatten.Nodup :=
    formed.order_perm.nodup_iff.mpr List.nodup_range
  apply List.Nodup.sublist _ orderNodup
  apply List.sublist_flatten_of_mem
  exact List.mem_map_of_mem (List.mem_of_getElem? placed)

/-- Every other container is without the input. -/
theorem WellFormed.home_eq (formed : page.WellFormed) {home number : Nat} {input : Input}
    {container : Container} (placed : page.containers[home]? = some container)
    (member : .input number ∈ container.nodes) (found : page.inputs[number]? = some input) :
    input.home = home := by
  have rowFound : page.rows[home]? = some container.numbers := by
    rw [rows, List.getElem?_map, placed, Option.map_some]
  have named := formed.home_of_mem rowFound (mem_numbers.mpr member)
  rw [homes, List.getElem?_map, found] at named
  exact Option.some.inj named

theorem insertShortcut_decorated (formed : page.WellFormed) {number : Nat}
    (inPage : number < page.inputs.length) (shortcut : Shortcut) :
    (page.decorated links notes).insertShortcut number shortcut =
      .ok (page.decorated (Function.update links number (shortcut :: links number)) notes) := by
  obtain ⟨input, container, found, placed, member⟩ := formed.exists_container inPage
  have siblingsEq : (page.decorated links notes).siblings number =
      (container.decorated links (notes input.home)).nodes :=
    siblings_eq found (getElem?_decorated placed)
  have namedEq : (page.decorated links notes).homes[number]? = some input.home := by
    rw [homes_decorated, homes, List.getElem?_map, found, Option.map_some]
  rw [insertShortcut_eq, namedEq, siblingsEq, Container.decorated,
    insertAfter?_withLinks (formed.numbers_nodup placed) member]
  refine congrArg Except.ok ?_
  simp only [decorated]
  congr 1
  apply List.ext_getElem?
  intro home
  rw [List.getElem?_modify, List.getElem?_mapIdx, List.getElem?_mapIdx]
  cases otherPlaced : page.containers[home]? with
  | none => rfl
  | some other =>
      by_cases same : input.home = home
      · subst same
        obtain rfl := Option.some.inj (placed.symm.trans otherPlaced)
        simp [Container.decorated]
      · have nodesEq : other.nodes.flatMap (PageNode.withLinks links) =
            other.nodes.flatMap (PageNode.withLinks
              (Function.update links number (shortcut :: links number))) := by
          apply flatMap_withLinks_congr
          intro third thirdMember
          rw [Function.update_of_ne]
          rintro rfl
          exact same (formed.home_eq otherPlaced thirdMember found)
        simp [same, Container.decorated, nodesEq]

theorem shortcut?_decorated (formed : page.WellFormed) {number : Nat} {shortcut : Shortcut}
    {more : List Shortcut} (inPage : number < page.inputs.length)
    (linked : links number = shortcut :: more) :
    (page.decorated links notes).shortcut? number = some shortcut := by
  obtain ⟨input, container, found, placed, member⟩ := formed.exists_container inPage
  have siblingsEq : (page.decorated links notes).siblings number =
      (container.decorated links (notes input.home)).nodes :=
    siblings_eq found (getElem?_decorated placed)
  rw [shortcut?, siblingsEq, Container.decorated]
  exact shortcutAfter?_withLinks linked member

theorem appendNote_decorated {number home : Nat} (named : page.homes[number]? = some home)
    (note : Note) :
    (page.decorated links notes).appendNote number note =
      .ok (page.decorated links (Function.update notes home (notes home ++ [note]))) := by
  rw [appendNote_eq, homes_decorated, named]
  refine congrArg Except.ok ?_
  simp only [appendNode, decorated]
  congr 1
  apply List.ext_getElem?
  intro place
  rw [List.getElem?_modify, List.getElem?_mapIdx, List.getElem?_mapIdx]
  cases page.containers[place]? with
  | none => rfl
  | some container =>
      by_cases same : home = place
      · subst same
        simp [Container.decorated]
      · simp [same, Function.update_of_ne (Ne.symm same)]

theorem any_withLinks (classed : PageNode → Bool) (nodes : List PageNode) :
    (nodes.flatMap (PageNode.withLinks links)).any classed =
      (nodes.any classed ||
        (nodes.filterMap PageNode.number?).any fun number =>
          (links number).any fun shortcut => classed (.shortcut shortcut)) := by
  induction nodes with
  | nil => rfl
  | cons node rest ih =>
      rw [List.flatMap_cons, List.any_append, ih, List.any_cons, List.filterMap_cons]
      cases node with
      | input number =>
          simp only [PageNode.withLinks, PageNode.number?, List.any_cons, List.any_map,
            Function.comp_def, Bool.or_assoc]
          congr 1
          rw [← Bool.or_assoc, ← Bool.or_assoc, Bool.or_comm (rest.any classed)]
      | shortcut shortcut => simp [PageNode.withLinks, PageNode.number?, Bool.or_assoc]
      | note note => simp [PageNode.withLinks, PageNode.number?, Bool.or_assoc]

/-- A class is found among what stood in the container, the links and the notes. -/
theorem hasMarker_decorated {number : Nat} {input : Input} {container : Container}
    (found : page.inputs[number]? = some input)
    (placed : page.containers[input.home]? = some container) (name : String) :
    (page.decorated links notes).hasMarker number name =
      (container.nodes.any (page.nodeHasClass name) ||
        (container.numbers.any fun other =>
          (links other).any fun shortcut => shortcut.spanClass == name) ||
        (notes input.home).any fun note => note.classes.contains name) := by
  have siblingsEq : (page.decorated links notes).siblings number =
      (container.decorated links (notes input.home)).nodes :=
    siblings_eq found (getElem?_decorated placed)
  rw [hasMarker, siblingsEq, Container.decorated, List.any_append, any_withLinks, List.any_map]
  rfl

end Page

end QuickFill
