import QuickFill.Link.Basic
import QuickFill.Page.Fixture
import QuickFill.Page.NameSet

/-!
# Pages in memory

A page in memory is a row of containers.  A container holds inputs, the spans of
links put after them, and notes.  Calendar boxes lie beside the containers and
are shown or hidden.
-/

namespace QuickFill

/-- An input of a page; `home` is the number of its container. -/
structure Input where
  id : String
  type : String
  classes : List String
  step : Option String
  value : String
  home : Nat
  deriving DecidableEq, Repr

/-- One thing inside a container; inputs stand there by their numbers. -/
inductive PageNode where
  | input (number : Nat)
  | shortcut (shortcut : Shortcut)
  | note (note : Note)
  deriving DecidableEq, Repr

structure Container where
  name : String
  nodes : List PageNode
  deriving DecidableEq, Repr

structure Page where
  inputs : List Input := []
  containers : List Container := []
  boxes : List String := []
  hidden : List String := []
  focused : Option Nat := none
  deriving DecidableEq, Repr

namespace Page

def empty : Page := {}

def containerNumber? (page : Page) (name : String) : Option Nat :=
  page.containers.findIdx? fun container => container.name == name

/-- Put a node at the end of the container with a number. -/
def appendNode (page : Page) (home : Nat) (node : PageNode) : Page :=
  { page with
    containers := page.containers.modify home fun container =>
      { container with nodes := container.nodes ++ [node] } }

/-- Give the page a container with a name, if it has none yet; its number. -/
def ensureContainer (page : Page) (name : String) : Page × Nat :=
  match page.containerNumber? name with
  | some home => (page, home)
  | none => ({ page with containers := page.containers ++ [Container.mk name []] },
      page.containers.length)

/-- Put an input into the container with a name; its number. -/
def addInputIn (page : Page) (container id type : String) (classes : List String)
    (step : Option String) (value : String) : Page × Nat :=
  let (page, home) := page.ensureContainer container
  let number := page.inputs.length
  let page := { page with inputs := page.inputs ++ [Input.mk id type classes step value home] }
  (page.appendNode home (.input number), number)

/-- Put a described field on the page; it stands alone in a container of its own
id when it names none. -/
def addField (page : Page) (described : FieldFixture) : Page :=
  (page.addInputIn (described.container.getD described.id) described.id described.type
    described.classes described.step described.value).1

/-- The page that a description describes. -/
def ofFixture (fixture : PageFixture) : Page :=
  { fixture.fields.foldl addField empty with boxes := sortedNames fixture.boxes }

def modifyInput (page : Page) (number : Nat) (change : Input → Input) : Page :=
  { page with inputs := page.inputs.modify number change }

def setStep (page : Page) (number : Nat) (step : Option String) : Page :=
  page.modifyInput number fun input => { input with step := step }

def showBox (page : Page) (id : String) : Page :=
  { page with hidden := page.hidden.filter (· != id), boxes := insertName id page.boxes }

def find? (page : Page) (id : String) : Option Nat :=
  page.inputs.findIdx? fun input => input.id == id

def value? (page : Page) (number : Nat) : Option String :=
  page.inputs[number]?.map Input.value

def step? (page : Page) (number : Nat) : Option String :=
  page.inputs[number]?.bind Input.step

/-- Whether a calendar box was hidden and not shown again. -/
def isHidden (page : Page) (id : String) : Bool :=
  page.hidden.contains id

def siblings (page : Page) (number : Nat) : List PageNode :=
  match page.inputs[number]? with
  | some input =>
    match page.containers[input.home]? with
    | some container => container.nodes
    | none => []
  | none => []

/-- The span that stands right after an input among some nodes. -/
def shortcutAfter? (number : Nat) : List PageNode → Option Shortcut
  | .input other :: rest =>
    if other = number then
      match rest with
      | .shortcut shortcut :: _ => some shortcut
      | _ => none
    else shortcutAfter? number rest
  | _ :: rest => shortcutAfter? number rest
  | [] => none

def shortcut? (page : Page) (number : Nat) : Option Shortcut :=
  shortcutAfter? number (page.siblings number)

def PageNode.note? : PageNode → Option Note
  | .note note => some note
  | _ => none

def notes (page : Page) (number : Nat) : List Note :=
  (page.siblings number).filterMap PageNode.note?

/-- The input with a number, or the fault that there is none. -/
def input? (page : Page) (number : Nat) : Except PageFault Input :=
  match page.inputs[number]? with
  | some input => .ok input
  | none => .error (.noInput number)

/-- Put a span right after an input among some nodes. -/
def insertAfter? (number : Nat) (shortcut : Shortcut) : List PageNode → Option (List PageNode)
  | [] => none
  | node :: rest =>
    if node = .input number then some (node :: .shortcut shortcut :: rest)
    else (insertAfter? number shortcut rest).map (node :: ·)

def insertShortcut (page : Page) (number : Nat) (shortcut : Shortcut) : Except PageFault Page := do
  let input ← page.input? number
  match insertAfter? number shortcut (page.siblings number) with
  | some nodes =>
    return { page with
      containers := page.containers.modify input.home fun container =>
        { container with nodes := nodes } }
  | none => .error .strayInput

def appendNote (page : Page) (number : Nat) (note : Note) : Except PageFault Page := do
  let input ← page.input? number
  return page.appendNode input.home (.note note)

def nodeHasClass (page : Page) (name : String) : PageNode → Bool
  | .input number =>
    match page.inputs[number]? with
    | some input => input.classes.contains name
    | none => false
  | .shortcut shortcut => shortcut.spanClass == name
  | .note note => note.classes.contains name

/-- Whether anything in the container of an input carries a class. -/
def hasMarker (page : Page) (number : Nat) (name : String) : Bool :=
  (page.siblings number).any (page.nodeHasClass name)

def write (page : Page) (number : Nat) (value : String) : Except PageFault Page := do
  let _ ← page.input? number
  return page.modifyInput number fun input => { input with value := value }

def focus (page : Page) (number : Nat) : Except PageFault Page := do
  let _ ← page.input? number
  return { page with focused := some number }

def hide (page : Page) (id : String) : Except PageFault Page :=
  if page.boxes.contains id then .ok { page with hidden := insertName id page.hidden }
  else .error (.noBox id)

def inputOrder (page : Page) : List Nat :=
  page.containers.flatMap fun container =>
    container.nodes.filterMap fun
      | .input number => some number
      | _ => none

end Page

end QuickFill
