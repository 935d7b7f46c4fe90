import QuickFill.Proofs.Page.Consistent
import QuickFill.Proofs.Registry.History

/-!
# The history of a page

A page is changed by calls, some of which are refused.  Nothing that stands on the page is
lost or moved by them, and what can be read off the page is told by the calls that were made:
what an input holds, which one is focused and which calendar boxes are hidden is decided by
the last call about it.
-/

namespace QuickFill

/-- An input as it was added, without what can be written on it and without its container. -/
def Input.bare (input : Input) : Input :=
  { input with step := none, value := "", home := 0 }

namespace PageChange

/-- The fault for which a change is refused when the page is without what it names. -/
def fault? : PageChange → Option PageFault
  | .addInput .. | .setStep .. | .showBox _ => none
  | .insertShortcut number _ | .appendNote number _ | .write number _ | .focus number =>
    some (.noInput number)
  | .hide id => some (.noBox id)

def container? : PageChange → Option String
  | .addInput container .. => some container
  | _ => none

def input? : PageChange → Option Input
  | .addInput _ id type classes => some ⟨id, type, classes, none, "", 0⟩
  | _ => none

/-- What a change writes into the input with a number. -/
def value? (number : Nat) : PageChange → Option String
  | .write other value => if other = number then some value else none
  | _ => none

/-- What a change makes the step of the input with a number. -/
def step? (number : Nat) : PageChange → Option (Option String)
  | .setStep other step => if other = number then some step else none
  | _ => none

def focus? : PageChange → Option (Option Nat)
  | .focus number => some (some number)
  | _ => none

/-- Whether a change hides or shows the calendar box with an id. -/
def hides? (id : String) : PageChange → Option Bool
  | .hide other => if other = id then some true else none
  | .showBox other => if other = id then some false else none
  | _ => none

end PageChange

namespace Page

/-- What a change is answered with. -/
def attempt (page : Page) : PageChange → Except PageFault Page
  | .addInput container id type classes =>
    .ok (page.addInputIn container id type classes none "").1
  | .setStep number step => .ok (page.setStep number step)
  | .showBox id => .ok (page.showBox id)
  | .insertShortcut number shortcut => page.insertShortcut number shortcut
  | .appendNote number note => page.appendNote number note
  | .write number value => page.write number value
  | .focus number => page.focus number
  | .hide id => page.hide id

theorem after_eq_attempt (page : Page) (change : PageChange) :
    page.after change = page.orElse (page.attempt change) := by
  cases change <;> rfl

/-- Whether the input or the calendar box that a change names is on the page. -/
def finds (page : Page) : PageChange → Bool
  | .addInput .. | .showBox _ => true
  | .setStep number _ | .insertShortcut number _ | .appendNote number _ | .write number _
  | .focus number => number < page.inputs.length
  | .hide id => id ∈ page.boxes

/-- Of a run of changes, those that find on the page what they name. -/
def made (page : Page) : List PageChange → List PageChange
  | [] => []
  | change :: rest =>
    if page.finds change then change :: made (page.after change) rest
    else made (page.after change) rest

/-- The node that a change puts on the page, with the number of its container; none where the
input that it names is missing. -/
def newNode? (page : Page) : PageChange → Option (Nat × PageNode)
  | .addInput container .. =>
    some ((page.ensureContainer container).2, .input page.inputs.length)
  | .insertShortcut number shortcut => page.homes[number]?.map (·, .shortcut shortcut)
  | .appendNote number note => page.homes[number]?.map (·, .note note)
  | _ => none

/-- The nodes that a run of changes puts on the page. -/
def newNodes (page : Page) : List PageChange → List (Nat × PageNode)
  | [] => []
  | change :: rest => (page.newNode? change).toList ++ newNodes (page.after change) rest

/-- Of nodes with the numbers of their containers, those in one container. -/
def nodesOf (home : Nat) (placed : List (Nat × PageNode)) : List PageNode :=
  placed.filterMap fun entry => if entry.1 = home then some entry.2 else none

def nodesIn (page : Page) (home : Nat) : List PageNode :=
  (page.containers[home]?.map Container.nodes).getD []

/-! ### What is refused -/

theorem Granted.eq_error_iff {condition : Prop} [Decidable condition] {cause fault : PageFault}
    {outcome : Except PageFault Page} (granted : Granted condition cause outcome) :
    outcome = .error fault ↔ decide condition = false ∧ some cause = some fault := by
  by_cases holds : condition
  · obtain ⟨changed, rfl⟩ := granted.1 holds
    simp [holds]
  · rw [granted.2 holds]
    simp [holds]

/-- A change is refused when the page is without what it names; a step is then set nowhere. -/
theorem Reachable.attempt_eq_error_iff {page : Page} (reachable : page.Reachable)
    (change : PageChange) (fault : PageFault) :
    page.attempt change = .error fault ↔
      page.finds change = false ∧ change.fault? = some fault := by
  cases change with
  | addInput container id type classes => simp [attempt, finds]
  | setStep number step => simp [attempt, PageChange.fault?]
  | showBox id => simp [attempt, finds]
  | insertShortcut number shortcut =>
      exact (reachable.wellFormed.insertShortcut_granted number shortcut).eq_error_iff
  | appendNote number note => exact (page.appendNote_granted number note).eq_error_iff
  | write number value => exact (page.write_granted number value).eq_error_iff
  | focus number => exact (page.focus_granted number).eq_error_iff
  | hide id => exact (page.hide_granted id).eq_error_iff

theorem Reachable.after_of_lost {page : Page} (reachable : page.Reachable)
    {change : PageChange} (lost : page.finds change = false) : page.after change = page := by
  cases named : change.fault? with
  | some fault =>
      rw [after_eq_attempt, (reachable.attempt_eq_error_iff change fault).mpr ⟨lost, named⟩]
      rfl
  | none =>
      cases change with
      | setStep number step =>
          have outside : page.inputs.length ≤ number :=
            Nat.le_of_not_lt (of_decide_eq_false lost)
          rw [after, setStep, modifyInput, List.modify_eq_self outside]
      | addInput container id type classes => cases lost
      | showBox id => cases lost
      | insertShortcut number shortcut => cases named
      | appendNote number note => cases named
      | write number value => cases named
      | focus number => cases named
      | hide id => cases named

/-! ### One change -/

/-- The page after a change, part by part. -/
def altered (page : Page) (change : PageChange) : Page where
  inputs := match change with
    | .addInput container id type classes =>
      page.inputs ++ [⟨id, type, classes, none, "", (page.ensureContainer container).2⟩]
    | .setStep number step => page.inputs.modify number fun input => { input with step := step }
    | .write number value => page.inputs.modify number fun input => { input with value := value }
    | _ => page.inputs
  containers := match change with
    | .addInput container .. =>
      ((page.ensureContainer container).1.appendNode (page.ensureContainer container).2
        (.input page.inputs.length)).containers
    | .insertShortcut number shortcut =>
      match page.homes[number]?, insertAfter? number shortcut (page.siblings number) with
      | some home, some nodes =>
        page.containers.modify home fun container => { container with nodes := nodes }
      | _, _ => page.containers
    | .appendNote number note =>
      match page.homes[number]? with
      | some home => (page.appendNode home (.note note)).containers
      | none => page.containers
    | _ => page.containers
  boxes := match change with
    | .showBox id => insertName id page.boxes
    | _ => page.boxes
  hidden := match change with
    | .showBox id => page.hidden.filter (· != id)
    | .hide id => if id ∈ page.boxes then insertName id page.hidden else page.hidden
    | _ => page.hidden
  focused := match change with
    | .focus number => if number < page.inputs.length then some number else page.focused
    | _ => page.focused

theorem after_eq_altered (page : Page) (change : PageChange) :
    page.after change = page.altered change := by
  cases change with
  | addInput container id type classes =>
      rw [after, addInputIn, altered]
      simp only [ensureContainer]
      cases page.containerNumber? container <;> rfl
  | setStep number step => rfl
  | showBox id => rfl
  | insertShortcut number shortcut =>
      rw [after, insertShortcut_eq]
      simp only [altered]
      cases page.homes[number]? <;>
        cases insertAfter? number shortcut (page.siblings number) <;> rfl
  | appendNote number note =>
      rw [after, appendNote_eq]
      simp only [altered]
      cases page.homes[number]? <;> rfl
  | write number value =>
      rw [after, write_eq]
      simp only [altered]
      split
      · rfl
      · next outside =>
        rw [List.modify_eq_self (Nat.le_of_not_lt outside)]
        rfl
  | focus number =>
      rw [after, focus_eq]
      simp only [altered]
      split <;> rfl
  | hide id =>
      simp only [after, Page.hide, List.contains_iff_mem, altered]
      split <;> rfl

theorem names_after (page : Page) (change : PageChange) :
    (page.after change).names = match change with
      | .addInput container .. =>
        if container ∈ page.names then page.names else page.names ++ [container]
      | _ => page.names := by
  rw [after_eq_altered]
  cases change with
  | addInput container id type classes =>
      exact (names_appendNode ..).trans (names_ensureContainer page container)
  | insertShortcut number shortcut =>
      rw [names, altered]
      simp only
      split
      · next home nodes _ _ => exact names_modify page.containers home fun _ => nodes
      · rfl
  | appendNote number note =>
      rw [names, altered]
      simp only
      split
      · exact names_appendNode ..
      · rfl
  | setStep number step => rfl
  | showBox id => rfl
  | write number value => rfl
  | focus number => rfl
  | hide id => rfl

/-! ### The nodes in a container -/

theorem nodesIn_appendNode (page : Page) {home : Nat} (inPage : home < page.containers.length)
    (node : PageNode) (other : Nat) :
    (page.appendNode home node).nodesIn other =
      page.nodesIn other ++ nodesOf other [(home, node)] := by
  rw [nodesIn, nodesIn, appendNode, List.getElem?_modify]
  by_cases same : home = other
  · subst same
    simp [nodesOf, List.getElem?_eq_getElem inPage]
  · simp [nodesOf, same]

theorem nodesIn_ensureContainer (page : Page) (name : String) (home : Nat) :
    (page.ensureContainer name).1.nodesIn home = page.nodesIn home := by
  rw [ensureContainer]
  cases page.containerNumber? name with
  | some number => rfl
  | none =>
      rw [nodesIn, nodesIn, List.getElem?_append]
      split
      · rfl
      · next outside =>
        rw [List.getElem?_eq_none (Nat.le_of_not_lt outside), List.getElem?_singleton]
        split <;> rfl

theorem ensureContainer_lt (page : Page) (name : String) :
    (page.ensureContainer name).2 < (page.ensureContainer name).1.containers.length := by
  rw [ensureContainer]
  cases found : page.containerNumber? name with
  | some home => exact (List.findIdx?_eq_some_iff_getElem.mp found).1
  | none => simp

/-- Nodes after others were put among them in one place. -/
def Grows (before added grown : List PageNode) : Prop :=
  ∃ front back, before = front ++ back ∧ grown = front ++ added ++ back

theorem grows_nil (nodes : List PageNode) : Grows nodes [] nodes :=
  ⟨nodes, [], (List.append_nil _).symm, by simp⟩

theorem grows_append (nodes added : List PageNode) : Grows nodes added (nodes ++ added) :=
  ⟨nodes, [], (List.append_nil _).symm, (List.append_nil _).symm⟩

theorem homes_of_found {page : Page} {number : Nat} {input : Input}
    (found : page.inputs[number]? = some input) : page.homes[number]? = some input.home := by
  rw [homes, List.getElem?_map, found, Option.map_some]

theorem homes_of_lost {page : Page} {number : Nat} (outside : ¬number < page.inputs.length) :
    page.homes[number]? = none := by
  rw [homes, List.getElem?_map, List.getElem?_eq_none (Nat.le_of_not_lt outside)]
  rfl

/-- A link that is put after an input stands in the container of the input. -/
theorem WellFormed.grows_insertShortcut {page : Page} (formed : page.WellFormed) {number : Nat}
    (inPage : number < page.inputs.length) (shortcut : Shortcut) (home : Nat) :
    Grows (page.nodesIn home)
      (nodesOf home (page.newNode? (.insertShortcut number shortcut)).toList)
      ((page.after (.insertShortcut number shortcut)).nodesIn home) := by
  obtain ⟨input, container, found, placed, member⟩ := formed.exists_container inPage
  obtain ⟨front, back, nodesEq, absent⟩ := List.eq_append_cons_of_mem member
  have isHome := homes_of_found found
  have inserted : insertAfter? number shortcut (page.siblings number) =
      some (front ++ .input number :: .shortcut shortcut :: back) := by
    rw [siblings_eq found placed, nodesEq, insertAfter?_append absent, insertAfter?, if_pos rfl]
    rfl
  have changed : (page.after (.insertShortcut number shortcut)).containers =
      page.containers.modify input.home fun container =>
        { container with nodes := front ++ .input number :: .shortcut shortcut :: back } := by
    rw [after_eq_altered, altered]
    simp only [isHome, inserted]
  rw [newNode?, isHome, nodesIn, nodesIn, changed, List.getElem?_modify]
  by_cases same : input.home = home
  · subst same
    refine ⟨front ++ [.input number], back, ?_, ?_⟩
    · simp [placed, nodesEq]
    · simp [placed, nodesOf]
  · simp [same, nodesOf, grows_nil]

/-- A note stands behind all else in the container of an input. -/
theorem WellFormed.grows_appendNote {page : Page} (formed : page.WellFormed) {number : Nat}
    (inPage : number < page.inputs.length) (note : Note) (home : Nat) :
    Grows (page.nodesIn home) (nodesOf home (page.newNode? (.appendNote number note)).toList)
      ((page.after (.appendNote number note)).nodesIn home) := by
  obtain ⟨input, container, found, placed, -⟩ := formed.exists_container inPage
  have isHome := homes_of_found found
  have noted : page.after (.appendNote number note) =
      page.appendNode input.home (.note note) := by
    rw [Page.after, appendNote_eq, isHome]
    rfl
  rw [noted, newNode?, isHome, nodesIn_appendNode page (List.getElem?_eq_some_iff.mp placed).1]
  exact grows_append _ _

theorem grows_addInput (page : Page) (container id type : String) (classes : List String)
    (home : Nat) :
    Grows (page.nodesIn home)
      (nodesOf home (page.newNode? (.addInput container id type classes)).toList)
      ((page.after (.addInput container id type classes)).nodesIn home) := by
  have appended := nodesIn_appendNode (page.ensureContainer container).1
    (page.ensureContainer_lt container) (.input page.inputs.length) home
  rw [nodesIn_ensureContainer] at appended
  rw [after_eq_altered]
  exact (congrArg (Grows _ _) appended).mpr (grows_append _ _)

/-- A change puts its new node somewhere among the nodes of a container, and leaves the
others as they stand. -/
theorem WellFormed.grows_after {page : Page} (formed : page.WellFormed) (change : PageChange)
    (home : Nat) :
    Grows (page.nodesIn home) (nodesOf home (page.newNode? change).toList)
      ((page.after change).nodesIn home) := by
  have kept {change : PageChange} (same : (page.altered change).containers = page.containers)
      (noNode : page.newNode? change = none) :
      Grows (page.nodesIn home) (nodesOf home (page.newNode? change).toList)
        ((page.after change).nodesIn home) := by
    rw [noNode, nodesIn, nodesIn, after_eq_altered, same]
    exact grows_nil _
  cases change with
  | addInput container id type classes => exact grows_addInput page container id type classes home
  | insertShortcut number shortcut =>
      by_cases inPage : number < page.inputs.length
      · exact formed.grows_insertShortcut inPage shortcut home
      · apply kept
        · simp only [altered, homes_of_lost inPage]
        · rw [newNode?, homes_of_lost inPage]
          rfl
  | appendNote number note =>
      by_cases inPage : number < page.inputs.length
      · exact formed.grows_appendNote inPage note home
      · apply kept
        · simp only [altered, homes_of_lost inPage]
        · rw [newNode?, homes_of_lost inPage]
          rfl
  | setStep number step => exact kept rfl rfl
  | showBox id => exact kept rfl rfl
  | write number value => exact kept rfl rfl
  | focus number => exact kept rfl rfl
  | hide id => exact kept rfl rfl

/-! ### Any number of changes -/

theorem nodesOf_append (home : Nat) (first second : List (Nat × PageNode)) :
    nodesOf home (first ++ second) = nodesOf home first ++ nodesOf home second :=
  List.filterMap_append

/-- What stands in a container stays in its order, and only the new nodes come to it. -/
theorem WellFormed.nodesIn_run {page : Page} (formed : page.WellFormed)
    (changes : List PageChange) (home : Nat) :
    (page.nodesIn home).Sublist ((changes.foldl Page.after page).nodesIn home) ∧
      ((changes.foldl Page.after page).nodesIn home).Perm
        (page.nodesIn home ++ nodesOf home (page.newNodes changes)) := by
  induction changes generalizing page with
  | nil => exact ⟨List.Sublist.refl _, by simp [newNodes, nodesOf]⟩
  | cons change rest ih =>
      obtain ⟨front, back, nodesEq, grownEq⟩ := formed.grows_after change home
      obtain ⟨sublist, perm⟩ := ih (formed.after change)
      constructor
      · refine List.Sublist.trans ?_ sublist
        rw [nodesEq, grownEq, List.append_assoc]
        exact (List.sublist_append_right _ _).append_left _
      · rw [List.foldl_cons, newNodes, nodesOf_append, ← List.append_assoc]
        refine perm.trans (List.Perm.append_right _ ?_)
        rw [nodesEq, grownEq, List.append_assoc, List.append_assoc]
        exact List.perm_append_comm.append_left _

theorem eraseDups_of_nodup {names : List String} (nodup : names.Nodup) :
    names.eraseDups = names := by
  induction names using List.reverseRecOn with
  | nil => rfl
  | append_singleton names name ih =>
      obtain ⟨front, -, apart⟩ := List.nodup_append.mp nodup
      have isNew : name ∉ names := fun known => apart name known name List.mem_cons_self rfl
      rw [Registry.eraseDups_append_singleton, if_neg isNew, ih front]

/-- Containers are kept, and new ones stand in the order in which their names came up. -/
theorem Tidy.names_run {page : Page} (tidy : page.Tidy) (changes : List PageChange) :
    (changes.foldl Page.after page).names =
      (page.names ++ changes.filterMap PageChange.container?).eraseDups := by
  induction changes using List.reverseRecOn with
  | nil => rw [List.filterMap_nil, List.append_nil, eraseDups_of_nodup tidy.names_nodup]; rfl
  | append_singleton changes change ih =>
      rw [List.foldl_append, List.foldl_cons, List.foldl_nil, names_after, ih,
        List.filterMap_append, ← List.append_assoc]
      cases change with
      | addInput container id type classes =>
          simp only [List.mem_eraseDups]
          exact (Registry.eraseDups_append_singleton _ _).symm
      | _ => exact congrArg List.eraseDups (List.append_nil _).symm

theorem Tidy.names_kept {page : Page} (tidy : page.Tidy) (changes : List PageChange) :
    page.names <+: (changes.foldl Page.after page).names := by
  rw [tidy.names_run, List.eraseDups_append, eraseDups_of_nodup tidy.names_nodup]
  exact List.prefix_append _ _

/-- Changing an input in one place does not show where that place is not looked at. -/
theorem map_modify_of_same {α : Type} {look : Input → α} {alter : Input → Input}
    (same : ∀ input, look (alter input) = look input) (inputs : List Input) (number : Nat) :
    (inputs.modify number alter).map look = inputs.map look := by
  apply List.ext_getElem?
  intro place
  rw [List.getElem?_map, List.getElem?_map, List.getElem?_modify]
  cases inputs[place]? with
  | none => rfl
  | some input => by_cases here : number = place <;> simp [here, same]

theorem inputs_after (page : Page) (change : PageChange) :
    (page.after change).inputs.map Input.bare =
        page.inputs.map Input.bare ++ change.input?.toList ∧
      page.homes <+: (page.after change).homes := by
  have kept (number : Nat) (alter : Input → Input)
      (same : ∀ input, (alter input).bare = input.bare ∧ (alter input).home = input.home) :
      (page.inputs.modify number alter).map Input.bare = page.inputs.map Input.bare ++ [] ∧
        page.homes <+: (page.inputs.modify number alter).map Input.home := by
    rw [map_modify_of_same fun input => (same input).1,
      map_modify_of_same fun input => (same input).2]
    exact ⟨(List.append_nil _).symm, List.prefix_rfl⟩
  rw [after_eq_altered]
  cases change with
  | addInput container id type classes =>
      simp only [homes, altered, List.map_append]
      exact ⟨rfl, List.prefix_append _ _⟩
  | setStep number step => exact kept number _ fun _ => ⟨rfl, rfl⟩
  | write number value => exact kept number _ fun _ => ⟨rfl, rfl⟩
  | _ => exact ⟨(List.append_nil _).symm, List.prefix_rfl⟩

/-- No id, type or class of an input changes, and no input goes elsewhere. -/
theorem inputs_run (page : Page) (changes : List PageChange) :
    (changes.foldl after page).inputs.map Input.bare =
        page.inputs.map Input.bare ++ changes.filterMap PageChange.input? ∧
      page.homes <+: (changes.foldl after page).homes := by
  induction changes generalizing page with
  | nil => exact ⟨(List.append_nil _).symm, List.prefix_rfl⟩
  | cons change rest ih =>
      obtain ⟨inputsEq, homesKept⟩ := page.inputs_after change
      obtain ⟨restInputs, restHomes⟩ := ih (page.after change)
      refine ⟨?_, homesKept.trans restHomes⟩
      rw [List.foldl_cons, restInputs, inputsEq, List.append_assoc, List.filterMap_cons]
      cases change.input? <;> rfl

theorem mem_boxes_run (page : Page) (changes : List PageChange) (id : String) :
    id ∈ (changes.foldl after page).boxes ↔ id ∈ page.boxes ∨ .showBox id ∈ changes := by
  induction changes generalizing page with
  | nil => simp
  | cons change rest ih =>
      have afterOne : id ∈ (page.after change).boxes ↔
          id ∈ page.boxes ∨ .showBox id = change := by
        rw [after_eq_altered]
        cases change <;> simp [altered, mem_insertName, or_comm]
      rw [List.foldl_cons, ih, afterOne, List.mem_cons, or_assoc]

/-- What a page is read as, and what each change that is made has to say about it: the last
say counts. -/
theorem Reachable.read_run {α : Type} {page : Page} (reachable : page.Reachable)
    (changes : List PageChange) (read : Page → α) (says? : PageChange → Option α)
    (told : ∀ page change, page.finds change = true →
      read (page.after change) = (says? change).getD (read page)) :
    read (changes.foldl Page.after page) =
      ((page.made changes).filterMap says?).getLast?.getD (read page) := by
  induction changes generalizing page with
  | nil => rfl
  | cons change rest ih =>
      have later := ih (reachable.changed change)
      rw [List.foldl_cons, later, made]
      cases found : page.finds change with
      | false => rw [reachable.after_of_lost found]; rfl
      | true =>
          rw [told page change found, if_pos rfl, List.filterMap_cons]
          cases says? change with
          | none => rfl
          | some said => rw [List.getLast?_cons]; rfl

/-! ### What is read off a page -/

variable {page : Page} {change : PageChange}

/-- A new input is the last one; it holds nothing and has no step. -/
theorem read_append {α : Type} (look : Input → α) (inputs : List Input) (input : Input)
    (number : Nat) :
    ((inputs ++ [input])[number]?.map look).getD (look input) =
      (inputs[number]?.map look).getD (look input) := by
  rw [List.getElem?_append]
  split
  · rfl
  · next outside =>
    rw [List.getElem?_eq_none (Nat.le_of_not_lt outside), List.getElem?_singleton]
    split <;> rfl

theorem value_after (found : page.finds change = true) (number : Nat) :
    ((page.after change).value? number).getD "" =
      (change.value? number).getD ((page.value? number).getD "") := by
  rw [value?, value?, after_eq_altered]
  cases change with
  | addInput container id type classes => exact read_append Input.value page.inputs _ number
  | setStep other step =>
      simp only [altered, List.getElem?_modify, PageChange.value?, Option.getD_none]
      cases page.inputs[number]? with
      | none => rfl
      | some input => by_cases same : other = number <;> simp [same]
  | write other value =>
      have inPage : other < page.inputs.length := of_decide_eq_true found
      simp only [altered, List.getElem?_modify, PageChange.value?]
      by_cases same : other = number
      · subst same
        simp [inPage]
      · simp [same]
  | _ => rfl

theorem step_after (found : page.finds change = true) (number : Nat) :
    (page.after change).step? number = (change.step? number).getD (page.step? number) := by
  have joined (inputs : List Input) :
      inputs[number]?.bind Input.step = (inputs[number]?.map Input.step).getD none := by
    cases inputs[number]? <;> rfl
  rw [step?, step?, after_eq_altered, joined, joined]
  cases change with
  | addInput container id type classes => exact read_append Input.step page.inputs _ number
  | setStep other step =>
      have inPage : other < page.inputs.length := of_decide_eq_true found
      simp only [altered, List.getElem?_modify, PageChange.step?]
      by_cases same : other = number
      · subst same
        simp [inPage]
      · simp [same]
  | write other value =>
      simp only [altered, List.getElem?_modify, PageChange.step?, Option.getD_none]
      cases page.inputs[number]? with
      | none => rfl
      | some input => by_cases same : other = number <;> simp [same]
  | _ => rfl

theorem focused_after (found : page.finds change = true) :
    (page.after change).focused = change.focus?.getD page.focused := by
  rw [after_eq_altered]
  cases change with
  | focus number => exact if_pos (of_decide_eq_true found)
  | _ => rfl

theorem isHidden_after (found : page.finds change = true) (id : String) :
    (page.after change).isHidden id = (change.hides? id).getD (page.isHidden id) := by
  rw [isHidden, isHidden, after_eq_altered]
  cases change with
  | showBox other =>
      by_cases same : other = id
      · simp [altered, PageChange.hides?, same]
      · simp [altered, PageChange.hides?, same, Ne.symm same]
  | hide other =>
      have known : other ∈ page.boxes := of_decide_eq_true found
      by_cases same : other = id
      · subst same
        simp [altered, known, PageChange.hides?, mem_insertName]
      · simp [altered, known, PageChange.hides?, mem_insertName, same, Ne.symm same]
  | _ => rfl

/-! ### The whole history -/

/-- How a page that went through changes stands to what it was before them. -/
structure History (page : Page) (changes : List PageChange) (changed : Page) : Prop where
  /-- A change is refused only where the input or the box that it names is missing. -/
  answered : ∀ before change, before ++ [change] <+: changes → ∀ fault,
    (before.foldl after page).attempt change = .error fault ↔
      (before.foldl after page).finds change = false ∧ change.fault? = some fault
  /-- What is missing is changed nowhere: the whole page stays as it is. -/
  unchanged : ∀ before change, before ++ [change] <+: changes →
    (before.foldl after page).finds change = false →
      (before ++ [change]).foldl after page = before.foldl after page
  /-- Old containers stand first, and new ones in the order in which their names came up. -/
  names_kept : page.names <+: changed.names
  names_eq : changed.names = (page.names ++ changes.filterMap PageChange.container?).eraseDups
  /-- The old nodes of a container keep their order, and the others are the new ones. -/
  nodes_kept : ∀ home, (page.nodesIn home).Sublist (changed.nodesIn home)
  nodes_gained : ∀ home, (changed.nodesIn home).Perm
    (page.nodesIn home ++ nodesOf home (page.newNodes changes))
  /-- Inputs keep their numbers, ids, types, classes and containers. -/
  inputs_eq : changed.inputs.map Input.bare =
    page.inputs.map Input.bare ++ changes.filterMap PageChange.input?
  homes_kept : page.homes <+: changed.homes
  /-- An input holds what was last written into it, a new one nothing at first. -/
  value_eq : ∀ number < changed.inputs.length, changed.value? number =
    some (((page.made changes).filterMap (PageChange.value? number)).getLast?.getD
      ((page.value? number).getD ""))
  step_eq : ∀ number, changed.step? number =
    ((page.made changes).filterMap (PageChange.step? number)).getLast?.getD (page.step? number)
  focused_eq : changed.focused =
    ((page.made changes).filterMap PageChange.focus?).getLast?.getD page.focused
  /-- A box is hidden when the last call about it was to hide it. -/
  isHidden_eq : ∀ id, changed.isHidden id =
    ((page.made changes).filterMap (PageChange.hides? id)).getLast?.getD (page.isHidden id)
  mem_boxes : ∀ id, id ∈ changed.boxes ↔ id ∈ page.boxes ∨ .showBox id ∈ changes

/-- A page never loses or reorders what it holds, and its state is its history. -/
theorem Reachable.history {page : Page} (reachable : page.Reachable) (changes : List PageChange) :
    History page changes (changes.foldl Page.after page) where
  answered before change _ fault := (reachable.foldl before).attempt_eq_error_iff change fault
  unchanged before change _ lost := by
    rw [List.foldl_append]
    exact (reachable.foldl before).after_of_lost lost
  names_kept := reachable.tidy.names_kept changes
  names_eq := reachable.tidy.names_run changes
  nodes_kept home := (reachable.wellFormed.nodesIn_run changes home).1
  nodes_gained home := (reachable.wellFormed.nodesIn_run changes home).2
  inputs_eq := (page.inputs_run changes).1
  homes_kept := (page.inputs_run changes).2
  value_eq number inPage := by
    have last := reachable.read_run changes (fun page => (page.value? number).getD "")
      (PageChange.value? number) fun _ _ found => value_after found number
    rw [value?, List.getElem?_eq_getElem inPage] at last ⊢
    exact congrArg some last
  step_eq number := reachable.read_run changes (fun page => page.step? number)
    (PageChange.step? number) fun _ _ found => step_after found number
  focused_eq := reachable.read_run changes Page.focused PageChange.focus? fun _ _ =>
    focused_after
  isHidden_eq id := reachable.read_run changes (fun page => page.isHidden id)
    (PageChange.hides? id) fun _ _ found => isHidden_after found id
  mem_boxes := page.mem_boxes_run changes

/-- Changes of the crowded page; three of them are refused, one for coming too early. -/
def corrections : List PageChange :=
  [.write 3 "early", .addInput "name" "name" "text" [], .write 3 "here", .write 3 "there",
    .appendNote 3 ⟨["note"], "New"⟩, .focus 1, .focus 9, .showBox "calendarbox0",
    .hide "calendarbox1"]

theorem history_corrections :
    crowded.Reachable ∧ History crowded corrections (corrections.foldl after crowded) ∧
      (corrections.foldl after crowded).nodesIn 1 = [.input 3, .note ⟨["note"], "New"⟩] ∧
      (corrections.foldl after crowded).value? 3 = some "there" ∧
      (corrections.foldl after crowded).focused = some 1 ∧
      (corrections.foldl after crowded).isHidden "calendarbox0" = false := by
  have reachable : crowded.Reachable := (Reachable.described _).foldl _
  exact ⟨reachable, reachable.history corrections, by decide, by decide, by decide, by decide⟩

end Page

end QuickFill
