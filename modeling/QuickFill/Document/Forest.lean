import QuickFill.Document.Element

/-!
# Forests

The content of a document, or of an element in it, is a row of nodes, each a text
or an element with content of its own.  The row is written as its first node and
the rest, so that one recursion reaches every node; document order is the order in
which that recursion meets the elements.
-/

namespace QuickFill

/-- A row of texts and elements. -/
inductive Forest where
  | nil
  | text (content : String) (rest : Forest)
  | element (head : Element) (children rest : Forest)
  deriving DecidableEq, Repr

namespace Forest

def append : Forest → Forest → Forest
  | .nil, after => after
  | .text content rest, after => .text content (append rest after)
  | .element head children rest, after => .element head children (append rest after)

instance : Append Forest := ⟨append⟩

def elements : Forest → List Element
  | .nil => []
  | .text _ rest => rest.elements
  | .element head children rest => head :: (children.elements ++ rest.elements)

/-- The elements of the row itself. -/
def siblings : Forest → List Element
  | .nil => []
  | .text _ rest => rest.siblings
  | .element head _ rest => head :: rest.siblings

def find? (forest : Forest) (key : Nat) : Option Element :=
  forest.elements.find? fun element => element.key == key

def contains (forest : Forest) (key : Nat) : Bool :=
  (forest.find? key).isSome

def withId? (forest : Forest) (id : String) : Option Element :=
  forest.elements.find? fun element => element.id? == some id

def modify (key : Nat) (alter : Element → Element) : Forest → Forest
  | .nil => .nil
  | .text content rest => .text content (rest.modify key alter)
  | .element head children rest =>
    .element (if head.key = key then alter head else head)
      (children.modify key alter) (rest.modify key alter)

def contentOf? (key : Nat) : Forest → Option Forest
  | .nil => none
  | .text _ rest => rest.contentOf? key
  | .element head children rest =>
    if head.key = key then some children
    else (children.contentOf? key).or (rest.contentOf? key)

def modifyContent (key : Nat) (alter : Forest → Forest) : Forest → Forest
  | .nil => .nil
  | .text content rest => .text content (rest.modifyContent key alter)
  | .element head children rest =>
    .element head (if head.key = key then alter children else children.modifyContent key alter)
      (rest.modifyContent key alter)

/-- Where the element with a key stands: in the content of the element with the
found key, or in the row itself, whose own place is given. -/
def homeOf? (key : Nat) (here : Option Nat) : Forest → Option (Option Nat)
  | .nil => none
  | .text _ rest => rest.homeOf? key here
  | .element head children rest =>
    if head.key = key then some here
    else (children.homeOf? key (some head.key)).or (rest.homeOf? key here)

def insertAfter : Forest → Nat → Forest → Forest
  | .nil, _, _ => .nil
  | .text content rest, key, inserted => .text content (rest.insertAfter key inserted)
  | .element head children rest, key, inserted =>
    if head.key = key then .element head children (inserted ++ rest)
    else .element head (children.insertAfter key inserted) (rest.insertAfter key inserted)

/-- The forest without the elements that have a key, and without their content. -/
def remove (drops : Nat → Bool) : Forest → Forest
  | .nil => .nil
  | .text content rest => .text content (rest.remove drops)
  | .element head children rest =>
    if drops head.key then rest.remove drops
    else .element head (children.remove drops) (rest.remove drops)

/-- Give the elements the keys from a number on, in document order; the forest and
the next number. -/
def number (next : Nat) : Forest → Forest × Nat
  | .nil => (.nil, next)
  | .text content rest =>
    let (rest, next) := rest.number next
    (.text content rest, next)
  | .element head children rest =>
    let (children, afterChildren) := children.number (next + 1)
    let (rest, afterRest) := rest.number afterChildren
    (.element { head with key := next } children rest, afterRest)

def ofText (content : String) : Forest :=
  if content = "" then .nil else .text content .nil

@[simp]
theorem elements_append (first second : Forest) :
    (first ++ second).elements = first.elements ++ second.elements := by
  change (append first second).elements = _
  induction first with
  | nil => rfl
  | text content rest ih => exact ih
  | element head children rest _ ih => simp [append, elements, ih]

/-- A change of one element changes that one in document order and no other. -/
theorem elements_modify (key : Nat) (alter : Element → Element) (forest : Forest) :
    (forest.modify key alter).elements =
      forest.elements.map fun element => if element.key = key then alter element else element := by
  induction forest with
  | nil => rfl
  | text content rest ih => exact ih
  | element head children rest inner ih => simp [modify, elements, inner, ih]

end Forest

end QuickFill
