import QuickFill.Browser.Basic

/-!
# Links and notes in a document

A document takes links and notes beside its inputs.  The nodes that are put in get
fresh keys, so that they can be told from the nodes that were there.
-/

namespace QuickFill

namespace Browser

/-- The non-breaking space before a link. -/
def linkSpace : String := "\u00a0"

def shortcutNodes (key : Nat) (shortcut : Shortcut) : Forest :=
  let link : Element :=
    { key := key + 1, tag := "a", attributes := [("href", "#")],
      action := some shortcut.action }
  let span : Element := { key := key, tag := "span", attributes := [("class", shortcut.spanClass)] }
  .element span (.text linkSpace (.element link (.ofText shortcut.label) .nil)) .nil

def noteNodes (key : Nat) (classAttribute text : String) : Forest :=
  let note : Element := { key := key, tag := "div", attributes := [("class", classAttribute)] }
  .element note (.ofText text) .nil

/-- Where an input stands: in an element, or as the root of the document. -/
def homeOf (browser : Browser) (key : Nat) : Except PageFault (Option Nat) :=
  match browser.document.homeOf? key none with
  | some home => .ok home
  | none => .error .noParent

/-- The element of a place; a document takes no node beside its root. -/
def elementOfPlace : Option Nat → Except PageFault Nat
  | some parent => .ok parent
  | none => .error (.exception "HierarchyRequestError")

def insertShortcut (browser : Browser) (key : Nat) (shortcut : Shortcut) :
    Except PageFault Browser := do
  let _ ← elementOfPlace (← browser.homeOf key)
  return { browser with
    document := browser.document.insertAfter key (shortcutNodes browser.nextKey shortcut)
    nextKey := browser.nextKey + 2 }

def appendNote (browser : Browser) (key : Nat) (note : Note) : Except PageFault Browser := do
  let home ← browser.homeOf key
  let classAttribute ← ClassName.joined note.classes
  let parent ← elementOfPlace home
  let nodes := noteNodes browser.nextKey classAttribute note.text
  return { browser with
    document := browser.document.modifyContent parent fun content => content ++ nodes
    nextKey := browser.nextKey + 1 }

/-- Whether the selector of a class finds anything in the element that holds an input.  One
that is not valid finds nothing: nobody hears of its exception. -/
def hasMarker (browser : Browser) (key : Nat) (name : String) : Bool :=
  match browser.selectors.read? (ClassName.selector name),
    browser.document.homeOf? key none with
  | some selection, some (some parent) => selection browser.document browser.active parent
  | _, _ => false

/-- An identifier is looked for among the classes in the element. -/
theorem hasMarker_of_identifier {browser : Browser} {key parent : Nat} {name : String}
    (identifier : ClassName.isIdentifier name.toList = true)
    (home : browser.document.homeOf? key none = some (some parent)) :
    browser.hasMarker key name =
      (browser.document.contentOf? parent).any fun content => content.hasClass name := by
  rw [hasMarker, browser.selectors.read?_identifier name identifier, home]
  rfl

theorem hasMarker_of_invalid {browser : Browser} {name : String}
    (invalid : browser.selectors.read? (ClassName.selector name) = none) (key : Nat) :
    browser.hasMarker key name = false := by
  rw [hasMarker, invalid]

def fields (browser : Browser) : List (Field Nat) :=
  browser.inputs.map fun element => ⟨element.key, element.inputType, element.classes⟩

instance : Environment Browser where
  clock browser := browser.reading.instant
  translator browser := browser.functions.translator
  record event browser := browser.log event

instance : Attachable Browser Nat where
  fields := fields
  insertShortcut := insertShortcut
  appendNote := appendNote
  hasMarker := hasMarker

end Browser

end QuickFill
