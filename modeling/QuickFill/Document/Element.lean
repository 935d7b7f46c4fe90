import QuickFill.Link.Basic
import QuickFill.Text.Blank

/-!
# Elements

An element of a document carries its tag, its attributes and what scripts have set
on it.  Elements are told apart by keys: no two elements that ever stood in one
document have the same key.
-/

namespace QuickFill

/-- An element apart from what it contains. -/
structure Element where
  key : Nat
  tag : String
  native : Bool := true
  attributes : List (String × String) := []
  /-- What is filled in, when the element is an input. -/
  value : String := ""
  hidden : Bool := false
  /-- What a click on the element does, when it is a quick-fill link. -/
  action : Option QuickLink := none
  deriving DecidableEq, Repr

namespace Element

def attribute? (element : Element) (name : String) : Option String :=
  element.attributes.lookup name

/-- The attributes with one of them set: an old one keeps its place. -/
def setIn (name value : String) : List (String × String) → List (String × String)
  | [] => [(name, value)]
  | (other, old) :: rest =>
    if other = name then (name, value) :: rest else (other, old) :: setIn name value rest

theorem lookup_setIn (name value : String) (attributes : List (String × String)) :
    (setIn name value attributes).lookup name = some value := by
  induction attributes with
  | nil => simp [setIn]
  | cons first rest ih =>
    obtain ⟨other, old⟩ := first
    by_cases same : other = name
    · simp [setIn, same]
    · have differs : (name == other) = false := by simpa using fun equal => same equal.symm
      simp [setIn, same, List.lookup_cons, differs, ih]

def setAttribute (element : Element) (name value : String) : Element :=
  { element with attributes := setIn name value element.attributes }

def dropAttribute (element : Element) (name : String) : Element :=
  { element with attributes := element.attributes.filter fun entry => entry.1 != name }

def id? (element : Element) : Option String :=
  element.attribute? "id"

/-- The names in the class attribute, each once. -/
def classes (element : Element) : List String :=
  let text := (element.attribute? "class").getD ""
  ((Text.words Text.isClassSeparator text.toList).map String.ofList).eraseDups

/-- Whether an element is an input of a form. -/
def isInput (element : Element) : Bool :=
  element.native && element.tag == "input"

def inputTypes : List String :=
  ["hidden", "text", "search", "tel", "url", "email", "password", "date", "month", "week",
    "time", "datetime-local", "number", "range", "color", "checkbox", "radio", "file",
    "submit", "image", "reset", "button"]

/-- The type of an input: its attribute in small letters, or text when that names
no type. -/
def inputType (element : Element) : String :=
  let named := String.ofList (((element.attribute? "type").getD "").toList.map Char.toLower)
  if inputTypes.contains named then named else "text"

end Element

end QuickFill
