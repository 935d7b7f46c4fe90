import Mathlib.Data.List.Nodup
import QuickFill.Page.Render
import QuickFill.Page.Workbench
import QuickFill.Proofs.Page.Decorated

/-!
# Consistent pages

Inputs and containers point at each other by numbers, containers are told apart by their
names, and the hidden boxes and the focused input are told apart by theirs.  Whatever a
described page goes through, these all stay in step.  The functions that read a page look
numbers up without asking whether there is anything; here each is set beside one that asks.
-/

namespace QuickFill

namespace Page

def names (page : Page) : List String :=
  page.containers.map Container.name

/-- Names are not shared, and what is hidden or focused is there. -/
structure Tidy (page : Page) : Prop where
  names_nodup : page.names.Nodup
  hidden_subset : page.hidden ⊆ page.boxes
  focused_lt : ∀ number, page.focused = some number → number < page.inputs.length

/-! ### One change -/

theorem names_modify (containers : List Container) (home : Nat)
    (alter : List PageNode → List PageNode) :
    (containers.modify home fun container => { container with nodes := alter container.nodes }).map
        Container.name = containers.map Container.name := by
  apply List.ext_getElem?
  intro place
  rw [List.getElem?_map, List.getElem?_map, List.getElem?_modify]
  cases containers[place]? with
  | none => rfl
  | some container => by_cases same : home = place <;> simp [same]

theorem names_appendNode (page : Page) (home : Nat) (node : PageNode) :
    (page.appendNode home node).names = page.names :=
  names_modify page.containers home fun nodes => nodes ++ [node]

/-- A name that a container has already is not given again. -/
theorem names_ensureContainer (page : Page) (name : String) :
    (page.ensureContainer name).1.names =
      if name ∈ page.names then page.names else page.names ++ [name] := by
  have isNamed : name ∈ page.names ↔ (page.containerNumber? name).isSome := by
    simp [names, containerNumber?]
  rw [ensureContainer]
  cases found : page.containerNumber? name with
  | some home =>
      rw [found] at isNamed
      exact (if_pos (isNamed.mpr rfl)).symm
  | none =>
      rw [found] at isNamed
      have isNew : name ∉ page.names := fun known => Bool.false_ne_true (isNamed.mp known)
      rw [if_neg isNew]
      exact List.map_append

theorem Tidy.addInputIn {page : Page} (tidy : page.Tidy) (container id type : String)
    (classes : List String) (step : Option String) (value : String) :
    (page.addInputIn container id type classes step value).1.Tidy := by
  have kept : (page.ensureContainer container).1.inputs = page.inputs ∧
      (page.ensureContainer container).1.boxes = page.boxes ∧
      (page.ensureContainer container).1.hidden = page.hidden ∧
      (page.ensureContainer container).1.focused = page.focused := by
    rw [ensureContainer]
    cases page.containerNumber? container <;> exact ⟨rfl, rfl, rfl, rfl⟩
  obtain ⟨inputsEq, boxesEq, hiddenEq, focusedEq⟩ := kept
  constructor
  · rw [Page.addInputIn, names_appendNode]
    have namesEq := names_ensureContainer page container
    rw [names] at namesEq
    rw [names, namesEq]
    by_cases known : container ∈ page.names
    · rw [if_pos known]
      exact tidy.names_nodup
    · rw [if_neg known, ← List.concat_eq_append]
      exact tidy.names_nodup.concat known
  · have subset := tidy.hidden_subset
    rw [← hiddenEq, ← boxesEq] at subset
    exact subset
  · intro number isFocused
    have before := tidy.focused_lt number (focusedEq ▸ isFocused)
    have longer : (page.addInputIn container id type classes step value).1.inputs.length =
        page.inputs.length + 1 := by
      rw [← inputsEq]
      exact List.length_append
    omega

theorem Tidy.insertShortcut {page changed : Page} (tidy : page.Tidy) {number : Nat}
    {shortcut : Shortcut} (outcome : page.insertShortcut number shortcut = .ok changed) :
    changed.Tidy := by
  rw [insertShortcut_eq] at outcome
  split at outcome
  · cases outcome
  · cases outcome
  · next home nodes named inserted =>
    obtain rfl := Except.ok.inj outcome
    refine ⟨?_, tidy.hidden_subset, tidy.focused_lt⟩
    have namesEq := names_modify page.containers home fun _ => nodes
    rw [names, namesEq]
    exact tidy.names_nodup

theorem Tidy.appendNote {page changed : Page} (tidy : page.Tidy) {number : Nat} {note : Note}
    (outcome : page.appendNote number note = .ok changed) : changed.Tidy := by
  rw [appendNote_eq] at outcome
  split at outcome
  · cases outcome
  · obtain rfl := Except.ok.inj outcome
    refine ⟨?_, tidy.hidden_subset, tidy.focused_lt⟩
    rw [names_appendNode]
    exact tidy.names_nodup

theorem Tidy.modifyInput {page : Page} (tidy : page.Tidy) (number : Nat)
    (change : Input → Input) : (page.modifyInput number change).Tidy := by
  refine ⟨tidy.names_nodup, tidy.hidden_subset, ?_⟩
  intro other isFocused
  rw [Page.modifyInput, List.length_modify]
  exact tidy.focused_lt other isFocused

theorem Tidy.write {page changed : Page} (tidy : page.Tidy) {number : Nat} {value : String}
    (outcome : page.write number value = .ok changed) : changed.Tidy := by
  rw [write_eq] at outcome
  split at outcome
  · obtain rfl := Except.ok.inj outcome
    exact tidy.modifyInput number _
  · cases outcome

theorem Tidy.focus {page changed : Page} (tidy : page.Tidy) {number : Nat}
    (outcome : page.focus number = .ok changed) : changed.Tidy := by
  rw [focus_eq] at outcome
  split at outcome
  · next inPage =>
    obtain rfl := Except.ok.inj outcome
    refine ⟨tidy.names_nodup, tidy.hidden_subset, ?_⟩
    intro other isFocused
    obtain rfl := Option.some.inj isFocused
    exact inPage
  · cases outcome

theorem Tidy.hide {page changed : Page} (tidy : page.Tidy) {id : String}
    (outcome : page.hide id = .ok changed) : changed.Tidy := by
  rw [Page.hide] at outcome
  split at outcome
  · next known =>
    obtain rfl := Except.ok.inj outcome
    refine ⟨tidy.names_nodup, ?_, tidy.focused_lt⟩
    intro other member
    rcases mem_insertName.mp member with rfl | before
    · exact List.contains_iff_mem.mp known
    · exact tidy.hidden_subset before
  · cases outcome

theorem Tidy.showBox {page : Page} (tidy : page.Tidy) (id : String) : (page.showBox id).Tidy := by
  refine ⟨tidy.names_nodup, ?_, tidy.focused_lt⟩
  intro other member
  have before : other ∈ page.hidden := (List.mem_filter.mp member).1
  exact mem_insertName.mpr (Or.inr (tidy.hidden_subset before))

theorem Tidy.orElse {page : Page} (tidy : page.Tidy) {outcome : Except PageFault Page}
    (accepted : ∀ changed, outcome = .ok changed → changed.Tidy) :
    (page.orElse outcome).Tidy := by
  cases outcome with
  | ok changed => exact accepted changed rfl
  | error cause => exact tidy

theorem Tidy.after {page : Page} (tidy : page.Tidy) (change : PageChange) :
    (page.after change).Tidy := by
  cases change with
  | addInput container id type classes => exact tidy.addInputIn container id type classes none ""
  | setStep number step => exact tidy.modifyInput number _
  | showBox id => exact tidy.showBox id
  | insertShortcut number shortcut => exact tidy.orElse fun _ => tidy.insertShortcut
  | appendNote number note => exact tidy.orElse fun _ => tidy.appendNote
  | write number value => exact tidy.orElse fun _ => tidy.write
  | focus number => exact tidy.orElse fun _ => tidy.focus
  | hide id => exact tidy.orElse fun _ => tidy.hide

/-! ### Any number of changes -/

theorem kept_addField (page : Page) (described : FieldFixture) :
    (page.addField described).hidden = page.hidden ∧
      (page.addField described).focused = page.focused := by
  rw [addField, Page.addInputIn, ensureContainer]
  cases page.containerNumber? (described.container.getD described.id) <;> exact ⟨rfl, rfl⟩

/-- Nothing is hidden or focused on a described page. -/
theorem untouched_ofFixture (fixture : PageFixture) :
    (ofFixture fixture).hidden = [] ∧ (ofFixture fixture).focused = none := by
  have fields (described : List FieldFixture) (page : Page) :
      (described.foldl addField page).hidden = page.hidden ∧
        (described.foldl addField page).focused = page.focused := by
    induction described generalizing page with
    | nil => exact ⟨rfl, rfl⟩
    | cons first rest ih =>
        obtain ⟨hiddenEq, focusedEq⟩ := kept_addField page first
        obtain ⟨restHidden, restFocused⟩ := ih (page.addField first)
        exact ⟨restHidden.trans hiddenEq, restFocused.trans focusedEq⟩
  exact fields fixture.fields empty

theorem tidy_ofFixture (fixture : PageFixture) : (ofFixture fixture).Tidy := by
  have fields (described : List FieldFixture) (page : Page) (tidy : page.Tidy) :
      (described.foldl addField page).Tidy := by
    induction described generalizing page with
    | nil => exact tidy
    | cons first rest ih => exact ih (page.addField first) (tidy.addInputIn ..)
  have tidyEmpty : empty.Tidy :=
    ⟨List.nodup_nil, List.nil_subset _, fun _ isFocused => nomatch isFocused⟩
  have tidy := fields fixture.fields empty tidyEmpty
  refine ⟨tidy.names_nodup, ?_, tidy.focused_lt⟩
  rw [(untouched_ofFixture fixture).1]
  exact List.nil_subset _

theorem Reachable.tidy {page : Page} (reachable : page.Reachable) : page.Tidy := by
  induction reachable with
  | described fixture => exact tidy_ofFixture fixture
  | changed change _ ih => exact ih.after change

/-! ### Numbers that are looked up

Each of these gives nothing when a number it looks up is past the end. -/

def siblings? (page : Page) (number : Nat) : Option (List PageNode) :=
  match page.inputs[number]? with
  | some input => page.containers[input.home]?.map Container.nodes
  | none => some []

def fields? (page : Page) : Option (List (Field Nat)) :=
  page.inputOrder.mapM (Workbench.field? page)

def renderNode? (page : Page) : PageNode → Option String
  | .input number =>
    page.inputs[number]?.map fun input => renderInput input (page.focused == some number)
  | .shortcut shortcut => some (renderShortcut shortcut)
  | .note note => some (renderNote note)

def nodeHasClass? (page : Page) (name : String) : PageNode → Option Bool
  | .input number => page.inputs[number]?.map fun input => input.classes.contains name
  | .shortcut shortcut => some (shortcut.spanClass == name)
  | .note note => some (note.classes.contains name)

def hasMarker? (page : Page) (number : Nat) (name : String) : Option Bool := do
  let nodes ← page.siblings? number
  nodes.anyM (page.nodeHasClass? name)

def insertShortcut? (page : Page) (number : Nat) (shortcut : Shortcut) :
    Option (Except PageFault Page) :=
  match page.input? number with
  | .error fault => some (.error fault)
  | .ok input => do
    let container ← page.containers[input.home]?
    match insertAfter? number shortcut container.nodes with
    | some nodes =>
      return .ok { page with
        containers := page.containers.set input.home { container with nodes := nodes } }
    | none => return .error .strayInput

def appendNote? (page : Page) (number : Nat) (note : Note) : Option (Except PageFault Page) :=
  match page.input? number with
  | .error fault => some (.error fault)
  | .ok input => do
    let container ← page.containers[input.home]?
    return .ok { page with
      containers := page.containers.set input.home
        { container with nodes := container.nodes ++ [.note note] } }

/-! ### Well-formed pages -/

variable {page : Page}

theorem count_input (nodes : List PageNode) (number : Nat) :
    nodes.count (.input number) = (nodes.filterMap PageNode.number?).count number := by
  induction nodes with
  | nil => rfl
  | cons node rest ih =>
      rw [List.count_cons, ih, List.filterMap_cons]
      cases node with
      | input other => simp [PageNode.number?, List.count_cons]
      | shortcut shortcut => simp [PageNode.number?]
      | note note => simp [PageNode.number?]

theorem WellFormed.count_input (formed : page.WellFormed) (number : Nat) :
    (page.containers.flatMap Container.nodes).count (.input number) =
      if number < page.inputs.length then 1 else 0 := by
  have orderEq : (page.containers.flatMap Container.nodes).filterMap PageNode.number? =
      page.rows.flatten := by
    rw [List.filterMap_flatMap, List.flatMap_def]
    rfl
  rw [Page.count_input, orderEq, formed.order_perm.count_eq, List.nodup_range.count, homes,
    List.length_map]
  simp only [List.mem_range]

theorem WellFormed.lt_of_mem (formed : page.WellFormed) {container : Container} {number : Nat}
    (inPage : container ∈ page.containers) (member : .input number ∈ container.nodes) :
    number < page.inputs.length := by
  have inOrder : number ∈ page.rows.flatten :=
    List.mem_flatten.mpr
      ⟨container.numbers, List.mem_map_of_mem inPage, mem_numbers.mpr member⟩
  rw [formed.order_perm.mem_iff, List.mem_range, homes, List.length_map] at inOrder
  exact inOrder

theorem WellFormed.siblings?_eq (formed : page.WellFormed) (number : Nat) :
    page.siblings? number = some (page.siblings number) := by
  by_cases inPage : number < page.inputs.length
  · obtain ⟨input, container, found, placed, -⟩ := formed.exists_container inPage
    rw [siblings?, siblings_eq found placed, found]
    simp only [placed, Option.map_some]
  · have missing : page.inputs[number]? = none :=
      List.getElem?_eq_none (Nat.le_of_not_lt inPage)
    rw [siblings?, siblings, missing]

theorem WellFormed.lt_of_siblings (formed : page.WellFormed) {number other : Nat}
    (member : .input other ∈ page.siblings number) : other < page.inputs.length := by
  rw [siblings] at member
  split at member
  · split at member
    · next container placed => exact formed.lt_of_mem (List.mem_of_getElem? placed) member
    · cases member
  · cases member

theorem mapM_eq_filterMap {α β : Type} {read : α → Option β} {items : List α}
    (found : ∀ item ∈ items, (read item).isSome) :
    items.mapM read = some (items.filterMap read) := by
  induction items with
  | nil => rfl
  | cons item rest ih =>
      obtain ⟨value, readEq⟩ := Option.isSome_iff_exists.mp (found item List.mem_cons_self)
      have restEq := ih fun other member => found other (List.mem_cons_of_mem item member)
      rw [List.mapM_cons, readEq, restEq, List.filterMap_cons_some readEq]
      rfl

theorem anyM_eq_any {α : Type} {read : α → Option Bool} {holds : α → Bool} {items : List α}
    (found : ∀ item ∈ items, read item = some (holds item)) :
    items.anyM read = some (items.any holds) := by
  induction items with
  | nil => rfl
  | cons item rest ih =>
      have restEq := ih fun other member => found other (List.mem_cons_of_mem item member)
      rw [List.anyM_cons, found item List.mem_cons_self, restEq, List.any_cons]
      cases holds item <;> rfl

theorem WellFormed.fields?_eq (formed : page.WellFormed) :
    page.fields? = some (Workbench.fields page) := by
  apply mapM_eq_filterMap
  intro number member
  rw [formed.mem_inputOrder] at member
  simp [Workbench.field?, member]

/-- The fields of a page are its inputs, each once. -/
theorem WellFormed.fields_perm (formed : page.WellFormed) :
    ((Workbench.fields page).map Field.input).Perm (List.range page.inputs.length) := by
  have numbersEq : (Workbench.fields page).map Field.input = page.inputOrder := by
    have found : page.inputOrder.filterMap
        (fun number => (Workbench.field? page number).map Field.input) =
          page.inputOrder.filterMap some := by
      apply List.filterMap_congr
      intro number member
      rw [formed.mem_inputOrder] at member
      simp [Workbench.field?, member]
    rw [Workbench.fields, List.map_filterMap, found, List.filterMap_some]
  rw [numbersEq]
  exact formed.inputOrder_perm

theorem WellFormed.renderNodes?_eq (formed : page.WellFormed) {container : Container}
    (inPage : container ∈ page.containers) :
    container.nodes.mapM page.renderNode? = some (container.nodes.map page.renderNode) := by
  have shown (node : PageNode) (member : node ∈ container.nodes) :
      page.renderNode? node = some (page.renderNode node) := by
    cases node with
    | input number =>
        have found := formed.lt_of_mem inPage member
        simp [renderNode?, renderNode, found]
    | shortcut shortcut => rfl
    | note note => rfl
  rw [mapM_eq_filterMap fun node member => by rw [shown node member]; rfl,
    List.filterMap_congr shown, ← Function.comp_def, List.filterMap_eq_map]

theorem WellFormed.hasMarker?_eq (formed : page.WellFormed) (number : Nat) (name : String) :
    page.hasMarker? number name = some (page.hasMarker number name) := by
  have classed (node : PageNode) (member : node ∈ page.siblings number) :
      page.nodeHasClass? name node = some (page.nodeHasClass name node) := by
    cases node with
    | input other =>
        have found := formed.lt_of_siblings member
        simp [nodeHasClass?, nodeHasClass, found]
    | shortcut shortcut => rfl
    | note note => rfl
  rw [hasMarker?, formed.siblings?_eq]
  exact anyM_eq_any classed

theorem WellFormed.insertShortcut?_eq (formed : page.WellFormed) (number : Nat)
    (shortcut : Shortcut) :
    page.insertShortcut? number shortcut = some (page.insertShortcut number shortcut) := by
  by_cases inPage : number < page.inputs.length
  · obtain ⟨input, container, found, placed, -⟩ := formed.exists_container inPage
    have inputEq : page.input? number = .ok input := by rw [input?, found]
    rw [insertShortcut?, Page.insertShortcut, inputEq, siblings_eq found placed]
    simp only [placed, bind, Option.bind, Except.bind]
    cases insertAfter? number shortcut container.nodes with
    | none => rfl
    | some nodes => simp [List.modify_eq_set_getElem?, placed, pure, Except.pure]
  · have inputEq : page.input? number = .error (.noInput number) := by
      rw [input?, List.getElem?_eq_none (Nat.le_of_not_lt inPage)]
    rw [insertShortcut?, Page.insertShortcut, inputEq]
    rfl

theorem WellFormed.appendNote?_eq (formed : page.WellFormed) (number : Nat) (note : Note) :
    page.appendNote? number note = some (page.appendNote number note) := by
  by_cases inPage : number < page.inputs.length
  · obtain ⟨input, container, found, placed, -⟩ := formed.exists_container inPage
    have inputEq : page.input? number = .ok input := by rw [input?, found]
    rw [appendNote?, Page.appendNote, inputEq]
    simp [placed, Page.appendNode, List.modify_eq_set_getElem?, bind, Except.bind, pure,
      Except.pure]
  · have inputEq : page.input? number = .error (.noInput number) := by
      rw [input?, List.getElem?_eq_none (Nat.le_of_not_lt inPage)]
    rw [appendNote?, Page.appendNote, inputEq]
    rfl

/-! ### What is granted -/

/-- A change is made when a condition holds, and refused with a given fault when not. -/
def Granted (condition : Prop) (fault : PageFault) (outcome : Except PageFault Page) : Prop :=
  (condition → ∃ changed, outcome = .ok changed) ∧ (¬condition → outcome = .error fault)

/-- Every input is found in its container, so a link is put after it. -/
theorem WellFormed.insertShortcut_granted (formed : page.WellFormed) (number : Nat)
    (shortcut : Shortcut) :
    Granted (number < page.inputs.length) (.noInput number)
      (page.insertShortcut number shortcut) := by
  constructor
  · intro inPage
    have outcome : (page.decorated (fun _ => []) fun _ => []).insertShortcut number shortcut =
        .ok _ := insertShortcut_decorated formed inPage shortcut
    rw [decorated_nothing] at outcome
    exact ⟨_, outcome⟩
  · intro outside
    rw [Page.insertShortcut, input?, List.getElem?_eq_none (Nat.le_of_not_lt outside)]
    rfl

theorem appendNote_granted (page : Page) (number : Nat) (note : Note) :
    Granted (number < page.inputs.length) (.noInput number) (page.appendNote number note) := by
  rw [appendNote_eq, homes, List.getElem?_map]
  constructor
  · intro inPage
    rw [List.getElem?_eq_getElem inPage]
    exact ⟨_, rfl⟩
  · intro outside
    rw [List.getElem?_eq_none (Nat.le_of_not_lt outside)]
    rfl

theorem granted_ite {condition : Prop} [Decidable condition] (fault : PageFault)
    (changed : Page) :
    Granted condition fault (if condition then .ok changed else .error fault) :=
  ⟨fun holds => ⟨changed, if_pos holds⟩, fun fails => if_neg fails⟩

theorem write_granted (page : Page) (number : Nat) (value : String) :
    Granted (number < page.inputs.length) (.noInput number) (page.write number value) := by
  rw [write_eq]
  exact granted_ite _ _

theorem focus_granted (page : Page) (number : Nat) :
    Granted (number < page.inputs.length) (.noInput number) (page.focus number) := by
  rw [focus_eq]
  exact granted_ite _ _

theorem hide_granted (page : Page) (id : String) :
    Granted (id ∈ page.boxes) (.noBox id) (page.hide id) := by
  rw [Page.hide]
  simp only [List.contains_iff_mem]
  exact granted_ite _ _

/-! ### Pages that come about -/

/-- All that points at something on the page points at what is there. -/
structure Consistent (page : Page) : Prop extends Tidy page where
  /-- Every input stands once among all nodes, and no other number stands there. -/
  count_input : ∀ number, (page.containers.flatMap Container.nodes).count (.input number) =
    if number < page.inputs.length then 1 else 0
  /-- It stands in the container that it names. -/
  placed : ∀ (number : Nat) (input : Input), page.inputs[number]? = some input →
    ∃ container : Container, page.containers[input.home]? = some container ∧
      .input number ∈ container.nodes
  fields_perm : ((Workbench.fields page).map Field.input).Perm (List.range page.inputs.length)
  fields?_eq : page.fields? = some (Workbench.fields page)
  siblings?_eq : ∀ number, page.siblings? number = some (page.siblings number)
  renderNodes?_eq : ∀ container ∈ page.containers,
    container.nodes.mapM page.renderNode? = some (container.nodes.map page.renderNode)
  hasMarker?_eq : ∀ number name, page.hasMarker? number name = some (page.hasMarker number name)
  insertShortcut?_eq : ∀ number shortcut,
    page.insertShortcut? number shortcut = some (page.insertShortcut number shortcut)
  appendNote?_eq : ∀ number note,
    page.appendNote? number note = some (page.appendNote number note)
  insertShortcut_granted : ∀ number shortcut,
    Granted (number < page.inputs.length) (.noInput number) (page.insertShortcut number shortcut)
  appendNote_granted : ∀ number note,
    Granted (number < page.inputs.length) (.noInput number) (page.appendNote number note)
  write_granted : ∀ number value,
    Granted (number < page.inputs.length) (.noInput number) (page.write number value)
  focus_granted : ∀ number,
    Granted (number < page.inputs.length) (.noInput number) (page.focus number)
  hide_granted : ∀ id, Granted (id ∈ page.boxes) (.noBox id) (page.hide id)

/-- Every page that comes about is consistent. -/
theorem Reachable.consistent {page : Page} (reachable : page.Reachable) : page.Consistent where
  toTidy := reachable.tidy
  count_input := reachable.wellFormed.count_input
  placed number input found := by
    have inPage := (List.getElem?_eq_some_iff.mp found).1
    obtain ⟨other, container, otherFound, placed, member⟩ :=
      reachable.wellFormed.exists_container inPage
    obtain rfl := Option.some.inj (found.symm.trans otherFound)
    exact ⟨container, placed, member⟩
  fields_perm := reachable.wellFormed.fields_perm
  fields?_eq := reachable.wellFormed.fields?_eq
  siblings?_eq := reachable.wellFormed.siblings?_eq
  renderNodes?_eq _ inPage := reachable.wellFormed.renderNodes?_eq inPage
  hasMarker?_eq := reachable.wellFormed.hasMarker?_eq
  insertShortcut?_eq := reachable.wellFormed.insertShortcut?_eq
  appendNote?_eq := reachable.wellFormed.appendNote?_eq
  insertShortcut_granted := reachable.wellFormed.insertShortcut_granted
  appendNote_granted := page.appendNote_granted
  write_granted := page.write_granted
  focus_granted := page.focus_granted
  hide_granted := page.hide_granted

theorem reachable_empty : empty.Reachable :=
  Reachable.described {}

theorem Reachable.foldl {page : Page} (reachable : page.Reachable) (changes : List PageChange) :
    (changes.foldl after page).Reachable := by
  induction changes generalizing page with
  | nil => exact reachable
  | cons change rest ih => exact ih (reachable.changed change)

/-- A day and an hour in one place, a link after the day, and then changes of which the first
and the third are refused. -/
def crowded : Page :=
  [.write 2 "early", .insertShortcut 0 ⟨"links", "Today", .calendarDay 0 0⟩, .hide "calendarbox1",
    .addInput "when" "place" "text" [], .hide "calendarbox0", .focus 2].foldl after
      (ofFixture {
        fields := [
          { id := "day", type := "date", container := some "when" },
          { id := "hour", type := "time", container := some "when" }]
        boxes := ["calendarbox0"] })

theorem consistent_crowded : crowded.Reachable ∧ crowded.Consistent ∧
    crowded.siblings 1 = [.input 0, .shortcut ⟨"links", "Today", .calendarDay 0 0⟩, .input 1,
      .input 2] ∧ crowded.hidden = ["calendarbox0"] ∧ crowded.focused = some 2 := by
  have reachable : crowded.Reachable := (Reachable.described _).foldl _
  exact ⟨reachable, reachable.consistent, by decide, by decide, by decide⟩

end Page

end QuickFill
