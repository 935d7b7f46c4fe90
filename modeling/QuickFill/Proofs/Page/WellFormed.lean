import QuickFill.Page.Basic

/-!
# Well-formed pages

Every input of a page stands once among the nodes of its containers, and in the
container that it names.  A page is described and then changed; this file proves
that whatever it goes through, it stays well formed.
-/

namespace QuickFill

def PageNode.number? : PageNode → Option Nat
  | .input number => some number
  | _ => none

/-- The numbers of the inputs in a container, in their order. -/
def Container.numbers (container : Container) : List Nat :=
  container.nodes.filterMap PageNode.number?

inductive PageChange where
  | addInput (container id type : String) (classes : List String)
  | setStep (number : Nat) (step : Option String)
  | showBox (id : String)
  | insertShortcut (number : Nat) (shortcut : Shortcut)
  | appendNote (number : Nat) (note : Note)
  | write (number : Nat) (value : String)
  | focus (number : Nat)
  | hide (id : String)
  deriving DecidableEq, Repr

namespace Page

def orElse (page : Page) : Except PageFault Page → Page
  | .ok changed => changed
  | .error _ => page

/-- The page after a change; a refused one leaves it as it was. -/
def after (page : Page) : PageChange → Page
  | .addInput container id type classes =>
    (page.addInputIn container id type classes none "").1
  | .setStep number step => page.setStep number step
  | .showBox id => page.showBox id
  | .insertShortcut number shortcut => page.orElse (page.insertShortcut number shortcut)
  | .appendNote number note => page.orElse (page.appendNote number note)
  | .write number value => page.orElse (page.write number value)
  | .focus number => page.orElse (page.focus number)
  | .hide id => page.orElse (page.hide id)

/-- The pages that come about by changes from a described page; the page without
anything is described by an empty description. -/
inductive Reachable : Page → Prop
  | described (fixture : PageFixture) : Reachable (ofFixture fixture)
  | changed {page : Page} (change : PageChange) : Reachable page → Reachable (page.after change)

/-- The numbers of the inputs, container by container. -/
def rows (page : Page) : List (List Nat) :=
  page.containers.map Container.numbers

/-- The containers that the inputs name. -/
def homes (page : Page) : List Nat :=
  page.inputs.map Input.home

/-- Every input stands once among the nodes, in the container that it names. -/
structure WellFormed (page : Page) : Prop where
  order_perm : page.rows.flatten.Perm (List.range page.homes.length)
  home_of_mem : ∀ {home : Nat} {row : List Nat} {number : Nat},
    page.rows[home]? = some row → number ∈ row → page.homes[number]? = some home

theorem inputOrder_eq_flatten (page : Page) : page.inputOrder = page.rows.flatten := by
  rw [rows, inputOrder, List.flatMap_def]
  congr 2

/-- The inputs stand on the page in some order, each once. -/
theorem WellFormed.inputOrder_perm {page : Page} (formed : page.WellFormed) :
    page.inputOrder.Perm (List.range page.inputs.length) := by
  have perm := formed.order_perm
  rw [← inputOrder_eq_flatten, homes, List.length_map] at perm
  exact perm

theorem WellFormed.inputOrder_nodup {page : Page} (formed : page.WellFormed) :
    page.inputOrder.Nodup :=
  formed.inputOrder_perm.nodup_iff.mpr List.nodup_range

theorem WellFormed.mem_inputOrder {page : Page} (formed : page.WellFormed) {number : Nat} :
    number ∈ page.inputOrder ↔ number < page.inputs.length := by
  rw [formed.inputOrder_perm.mem_iff, List.mem_range]

/-- Only the rows of numbers and the named containers matter. -/
theorem WellFormed.congr {page changed : Page} (formed : page.WellFormed)
    (rowsEq : changed.rows = page.rows) (homesEq : changed.homes = page.homes) :
    changed.WellFormed := by
  constructor
  · rw [rowsEq, homesEq]
    exact formed.order_perm
  · rw [rowsEq, homesEq]
    exact formed.home_of_mem

/-- A change of one container that keeps its inputs keeps the rows. -/
theorem map_numbers_modify {containers : List Container} {home : Nat}
    {alter : Container → Container}
    (keeps : ∀ container, containers[home]? = some container →
      (alter container).numbers = container.numbers) :
    (containers.modify home alter).map Container.numbers = containers.map Container.numbers := by
  apply List.ext_getElem?
  intro place
  rw [List.getElem?_map, List.getElem?_map, List.getElem?_modify]
  by_cases same : home = place
  · subst same
    cases found : containers[home]? with
    | none => rfl
    | some container => simp [keeps container found]
  · simp [same]

theorem homes_modifyInput (page : Page) (number : Nat) {change : Input → Input}
    (keeps : ∀ input, (change input).home = input.home) :
    (page.modifyInput number change).homes = page.homes := by
  apply List.ext_getElem?
  intro place
  simp only [homes, modifyInput, List.getElem?_map, List.getElem?_modify]
  cases page.inputs[place]? with
  | none => rfl
  | some input => by_cases same : number = place <;> simp [same, keeps]

theorem rows_modifyInput (page : Page) (number : Nat) (change : Input → Input) :
    (page.modifyInput number change).rows = page.rows :=
  rfl

theorem WellFormed.modifyInput {page : Page} (formed : page.WellFormed) (number : Nat)
    {change : Input → Input} (keeps : ∀ input, (change input).home = input.home) :
    (page.modifyInput number change).WellFormed :=
  formed.congr (rows_modifyInput page number change) (homes_modifyInput page number keeps)

/-! ### Nodes that are no inputs -/

theorem siblings_eq {page : Page} {number : Nat} {input : Input} {container : Container}
    (found : page.inputs[number]? = some input)
    (placed : page.containers[input.home]? = some container) :
    page.siblings number = container.nodes := by
  simp [siblings, found, placed]

theorem filterMap_insertAfter? {number : Nat} {shortcut : Shortcut} {nodes changed : List PageNode}
    (inserted : insertAfter? number shortcut nodes = some changed) :
    changed.filterMap PageNode.number? = nodes.filterMap PageNode.number? := by
  induction nodes generalizing changed with
  | nil => simp [insertAfter?] at inserted
  | cons node rest ih =>
      rw [insertAfter?] at inserted
      split at inserted
      · obtain rfl := Option.some.inj inserted
        cases node <;> rfl
      · obtain ⟨others, insertedRest, rfl⟩ := Option.map_eq_some_iff.mp inserted
        simp [List.filterMap_cons, ih insertedRest]

theorem insertShortcut_eq (page : Page) (number : Nat) (shortcut : Shortcut) :
    page.insertShortcut number shortcut =
      match page.homes[number]?, insertAfter? number shortcut (page.siblings number) with
      | none, _ => .error (.noInput number)
      | some _, none => .error .strayInput
      | some home, some nodes =>
        .ok { page with
          containers := page.containers.modify home fun container =>
            { container with nodes := nodes } } := by
  rw [homes, List.getElem?_map]
  cases found : page.inputs[number]? with
  | none => simp [insertShortcut, input?, found, bind, Except.bind]
  | some input =>
      cases inserted : insertAfter? number shortcut (page.siblings number) <;>
        simp [insertShortcut, input?, found, inserted, bind, Except.bind, pure, Except.pure]

theorem appendNote_eq (page : Page) (number : Nat) (note : Note) :
    page.appendNote number note =
      match page.homes[number]? with
      | none => .error (.noInput number)
      | some home => .ok (page.appendNode home (.note note)) := by
  rw [homes, List.getElem?_map]
  cases found : page.inputs[number]? <;>
    simp [appendNote, input?, found, bind, Except.bind, pure, Except.pure]

theorem write_eq (page : Page) (number : Nat) (value : String) :
    page.write number value =
      if number < page.inputs.length then
        .ok (page.modifyInput number fun input => { input with value := value })
      else .error (.noInput number) := by
  by_cases inside : number < page.inputs.length
  · simp [write, input?, bind, Except.bind, pure, Except.pure, inside]
  · simp [write, input?, bind, Except.bind, inside]

theorem focus_eq (page : Page) (number : Nat) :
    page.focus number =
      if number < page.inputs.length then .ok { page with focused := some number }
      else .error (.noInput number) := by
  by_cases inside : number < page.inputs.length
  · simp [focus, input?, bind, Except.bind, pure, Except.pure, inside]
  · simp [focus, input?, bind, Except.bind, inside]

theorem homes_eq_some {page : Page} {number home : Nat} (named : page.homes[number]? = some home) :
    ∃ input, page.inputs[number]? = some input ∧ input.home = home := by
  rw [homes, List.getElem?_map] at named
  exact Option.map_eq_some_iff.mp named

theorem WellFormed.insertShortcut {page changed : Page} {number : Nat} {shortcut : Shortcut}
    (formed : page.WellFormed) (outcome : page.insertShortcut number shortcut = .ok changed) :
    changed.WellFormed := by
  rw [insertShortcut_eq] at outcome
  split at outcome
  · cases outcome
  · cases outcome
  · next home nodes named inserted =>
    obtain rfl := Except.ok.inj outcome
    obtain ⟨input, found, rfl⟩ := homes_eq_some named
    refine formed.congr (map_numbers_modify ?_) rfl
    intro container placed
    rw [siblings_eq found placed] at inserted
    exact filterMap_insertAfter? inserted

theorem WellFormed.appendNode {page : Page} (formed : page.WellFormed) (home : Nat)
    {node : PageNode} (noInput : node.number? = none) : (page.appendNode home node).WellFormed := by
  refine formed.congr (map_numbers_modify ?_) rfl
  intro container _
  simp [Container.numbers, noInput]

theorem WellFormed.appendNote {page changed : Page} {number : Nat} {note : Note}
    (formed : page.WellFormed) (outcome : page.appendNote number note = .ok changed) :
    changed.WellFormed := by
  rw [appendNote_eq] at outcome
  split at outcome
  · cases outcome
  · obtain rfl := Except.ok.inj outcome
    exact formed.appendNode _ rfl

/-! ### New inputs -/

/-- A number put at the end of one row comes up once more in the whole order. -/
theorem flatten_modify_perm {rows : List (List Nat)} {home : Nat} (homeLt : home < rows.length)
    (number : Nat) :
    (rows.modify home fun row => row ++ [number]).flatten.Perm (rows.flatten ++ [number]) := by
  obtain ⟨before, row, later, rowsEq, -, modified⟩ :=
    List.exists_of_modify (fun row => row ++ [number]) homeLt
  rw [modified, rowsEq]
  simp only [List.flatten_append, List.flatten_cons, List.append_assoc]
  apply List.Perm.append_left
  apply List.Perm.append_left
  exact List.perm_append_comm

/-- A page with a new input at the end of one of its containers. -/
def pushInput (page : Page) (input : Input) : Page :=
  { page with inputs := page.inputs ++ [input] }.appendNode input.home
    (.input page.inputs.length)

theorem rows_pushInput (page : Page) (input : Input) :
    (page.pushInput input).rows =
      page.rows.modify input.home fun row => row ++ [page.homes.length] := by
  apply List.ext_getElem?
  intro place
  simp only [rows, homes, pushInput, appendNode, List.getElem?_map, List.getElem?_modify,
    List.length_map]
  cases page.containers[place]? with
  | none => rfl
  | some container =>
      by_cases same : input.home = place <;> simp [same, Container.numbers, PageNode.number?]

theorem homes_pushInput (page : Page) (input : Input) :
    (page.pushInput input).homes = page.homes ++ [input.home] := by
  simp [homes, pushInput, appendNode]

theorem WellFormed.pushInput {page : Page} (formed : page.WellFormed) {input : Input}
    (homeLt : input.home < page.containers.length) : (page.pushInput input).WellFormed := by
  constructor
  · rw [rows_pushInput, homes_pushInput, List.length_append, List.length_singleton,
      List.range_succ]
    have rowsLt : input.home < page.rows.length := by simpa [rows] using homeLt
    exact (flatten_modify_perm rowsLt _).trans (formed.order_perm.append_right _)
  · intro home row number rowFound member
    rw [rows_pushInput, List.getElem?_modify] at rowFound
    rw [homes_pushInput]
    obtain ⟨oldRow, oldFound, rfl⟩ := Option.map_eq_some_iff.mp rowFound
    have isOld : number ∈ oldRow → (page.homes ++ [input.home])[number]? = some home := by
      intro oldMember
      have named := formed.home_of_mem oldFound oldMember
      rw [List.getElem?_append_left (List.getElem?_eq_some_iff.mp named).1]
      exact named
    by_cases same : input.home = home
    · rw [if_pos same] at member
      rcases List.mem_append.mp member with oldMember | isNew
      · exact isOld oldMember
      · obtain rfl := List.mem_singleton.mp isNew
        simp [same]
    · rw [if_neg same] at member
      exact isOld member

theorem WellFormed.pushContainer {page : Page} (formed : page.WellFormed) (name : String) :
    { page with containers := page.containers ++ [Container.mk name []] }.WellFormed := by
  have rowsAfter : { page with containers := page.containers ++ [Container.mk name []] }.rows =
      page.rows ++ [[]] := by
    simp [rows, Container.numbers]
  constructor
  · rw [rowsAfter, List.flatten_append, List.flatten_singleton, List.append_nil]
    exact formed.order_perm
  · intro home row number rowFound member
    rw [rowsAfter, List.getElem?_append] at rowFound
    split at rowFound
    · exact formed.home_of_mem rowFound member
    · rw [List.getElem?_singleton] at rowFound
      split at rowFound
      · obtain rfl := Option.some.inj rowFound
        simp at member
      · simp at rowFound

theorem WellFormed.addInputIn {page : Page} (formed : page.WellFormed)
    (container id type : String) (classes : List String) (step : Option String) (value : String) :
    (page.addInputIn container id type classes step value).1.WellFormed := by
  rw [Page.addInputIn, ensureContainer]
  cases found : page.containerNumber? container with
  | some home =>
      have homeLt : home < page.containers.length :=
        (List.findIdx?_eq_some_iff_getElem.mp found).1
      exact formed.pushInput homeLt
  | none =>
      exact (formed.pushContainer container).pushInput (by simp)

/-! ### Pages that come about -/

theorem WellFormed.orElse {page : Page} (formed : page.WellFormed)
    {outcome : Except PageFault Page}
    (accepted : ∀ changed, outcome = .ok changed → changed.WellFormed) :
    (page.orElse outcome).WellFormed := by
  cases outcome with
  | ok changed => exact accepted changed rfl
  | error cause => exact formed

theorem WellFormed.write {page changed : Page} {number : Nat} {value : String}
    (formed : page.WellFormed) (outcome : page.write number value = .ok changed) :
    changed.WellFormed := by
  rw [write_eq] at outcome
  split at outcome
  · obtain rfl := Except.ok.inj outcome
    exact formed.modifyInput number fun _ => rfl
  · cases outcome

theorem WellFormed.focus {page changed : Page} {number : Nat}
    (formed : page.WellFormed) (outcome : page.focus number = .ok changed) :
    changed.WellFormed := by
  rw [focus_eq] at outcome
  split at outcome
  · obtain rfl := Except.ok.inj outcome
    exact formed.congr rfl rfl
  · cases outcome

theorem WellFormed.hide {page changed : Page} {id : String}
    (formed : page.WellFormed) (outcome : page.hide id = .ok changed) :
    changed.WellFormed := by
  rw [Page.hide] at outcome
  split at outcome
  · obtain rfl := Except.ok.inj outcome
    exact formed.congr rfl rfl
  · cases outcome

theorem WellFormed.after {page : Page} (formed : page.WellFormed) (change : PageChange) :
    (page.after change).WellFormed := by
  cases change with
  | addInput container id type classes => exact formed.addInputIn container id type classes none ""
  | setStep number step => exact formed.modifyInput number fun _ => rfl
  | showBox id => exact formed.congr rfl rfl
  | insertShortcut number shortcut => exact formed.orElse fun _ => formed.insertShortcut
  | appendNote number note => exact formed.orElse fun _ => formed.appendNote
  | write number value => exact formed.orElse fun _ => formed.write
  | focus number => exact formed.orElse fun _ => formed.focus
  | hide id => exact formed.orElse fun _ => formed.hide

theorem wellFormed_empty : empty.WellFormed where
  order_perm := by simp [rows, homes, empty]
  home_of_mem := by simp [rows, empty]

theorem wellFormed_ofFixture (fixture : PageFixture) : (ofFixture fixture).WellFormed := by
  have fields (page : Page) (formed : page.WellFormed) (described : List FieldFixture) :
      (described.foldl addField page).WellFormed := by
    induction described generalizing page with
    | nil => exact formed
    | cons first rest ih => exact ih (page.addField first) (formed.addInputIn ..)
  exact (fields empty wellFormed_empty fixture.fields).congr rfl rfl

theorem Reachable.wellFormed {page : Page} (reachable : page.Reachable) : page.WellFormed := by
  induction reachable with
  | described fixture => exact wellFormed_ofFixture fixture
  | changed change _ ih => exact ih.after change

end Page

end QuickFill
