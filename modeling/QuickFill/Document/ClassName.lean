import QuickFill.Document.Forest

/-!
# Class names

A class name is put on an element as a token of its class attribute, and looked
for by a selector.  A token may be any text without the five blanks.  What a selector
made of such a text means is up to the browser: an identifier names a class, compared
letter for letter as in a document without quirks, and a text that begins with a digit
makes no selector at all.
-/

namespace QuickFill

namespace ClassName

/-- The exception that a text raises when it is put on an element as a token. -/
def tokenFault? (name : String) : Option PageFault :=
  if name = "" then some (.exception "SyntaxError")
  else if name.toList.any Text.isClassSeparator then some (.exception "InvalidCharacterError")
  else none

/-- Put a token at the end of a list that may have it already. -/
def addToken (names : List String) (name : String) : List String :=
  if names.contains name then names else names ++ [name]

/-- The class attribute made of tokens that are put on one by one. -/
def joined (names : List String) : Except PageFault String :=
  match names.findSome? tokenFault? with
  | some fault => .error fault
  | none => .ok (" ".intercalate (names.foldl addToken []))

/-- A character that an identifier can start with. -/
def isStart (character : Char) : Bool :=
  character.isAlpha || character == '_' || 0x80 ≤ character.toNat

/-- A character that an identifier can go on with. -/
def isInner (character : Char) : Bool :=
  isStart character || character.isDigit || character == '-'

/-- Whether a class can be named in a selector as it is. -/
def isIdentifier (name : List Char) : Bool :=
  match name with
  | '-' :: '-' :: rest => rest.all isInner
  | '-' :: first :: rest => isStart first && rest.all isInner
  | first :: rest => isStart first && rest.all isInner
  | [] => false

/-- The selector that a class is looked for by. -/
def selector (name : String) : String :=
  "." ++ name

end ClassName

/-- Whether an element of the forest has a class. -/
def Forest.hasClass (forest : Forest) (name : String) : Bool :=
  forest.elements.any fun element => element.classes.contains name

/-- What a selector asks: whether anything inside an element of a document is selected,
while some element, or none, has the focus. -/
abbrev Selection := Forest → Option Nat → Nat → Bool

/-- The question for anything with a class. -/
def Selection.ofClass (name : String) : Selection := fun document _ parent =>
  (document.contentOf? parent).any fun content => content.hasClass name

/-- How a browser reads selectors.  Lists, combinations, escapes and whatever else there is
may be read in any way: only two kinds of selectors are settled. -/
structure SelectorReader where
  /-- What a selector asks; none when it is not valid, for which an exception is raised. -/
  read? : String → Option Selection
  /-- A dot and an identifier ask for a class. -/
  read?_identifier : ∀ name, ClassName.isIdentifier name.toList = true →
    read? (ClassName.selector name) = some (.ofClass name)
  /-- A dot and a digit begin a number, and no selector begins with a number. -/
  read?_digit : ∀ name, name.toList.head?.any Char.isDigit = true →
    read? (ClassName.selector name) = none

namespace ClassName

theorem toList_selector (name : String) : (selector name).toList = '.' :: name.toList := by
  rw [selector, String.toList_append]
  rfl

theorem toNat_le_of_isDigit {character : Char} (digit : character.isDigit = true) :
    character.toNat ≤ 57 :=
  UInt32.le_iff_toNat_le.mp (of_decide_eq_true (Bool.and_eq_true_iff.mp digit).2)

/-- The characters that an identifier can start with come after the digits. -/
theorem lt_toNat_of_isStart {character : Char} (start : isStart character = true) :
    57 < character.toNat := by
  rw [isStart, Bool.or_eq_true, Bool.or_eq_true] at start
  rcases start with (letter | underscore) | high
  · rcases Bool.or_eq_true_iff.mp letter with upper | lower
    · have least : 65 ≤ character.toNat :=
        UInt32.le_iff_toNat_le.mp (of_decide_eq_true upper).1
      omega
    · have least : 97 ≤ character.toNat :=
        UInt32.le_iff_toNat_le.mp (of_decide_eq_true (Bool.and_eq_true_iff.mp lower).1)
      omega
  · rw [beq_iff_eq.mp underscore]
    decide
  · have least : 0x80 ≤ character.toNat := of_decide_eq_true high
    omega

/-- No identifier begins with a digit. -/
theorem isIdentifier_of_isDigit {name : List Char} (digit : name.head?.any Char.isDigit = true) :
    isIdentifier name = false := by
  fun_cases isIdentifier name with
  | case1 rest => cases digit
  | case2 first rest _ => cases digit
  | case3 first rest _ _ =>
      have noStart : isStart first = false := by
        rw [← Bool.not_eq_true]
        exact fun start => Nat.not_lt.mpr (toNat_le_of_isDigit digit) (lt_toNat_of_isStart start)
      rw [noStart, Bool.false_and]
  | case4 => rfl

end ClassName

/-- A reader of nothing but selectors for one class that is named as it is. -/
def SelectorReader.plain : SelectorReader where
  read? selector :=
    match selector.toList with
    | '.' :: name =>
      if ClassName.isIdentifier name then some (.ofClass (String.ofList name)) else none
    | _ => none
  read?_identifier name identifier := by
    simp only [ClassName.toList_selector, identifier, if_true, String.ofList_toList]
  read?_digit name digit := by
    simp only [ClassName.toList_selector, ClassName.isIdentifier_of_isDigit digit,
      Bool.false_eq_true, if_false]

end QuickFill
