import QuickFill.Number.Overflow

/-!
# JSON values

A value keeps its members in reading order, repeated names included, and its
numbers exactly.  A member whose name holds half of a surrogate pair has no name.
A value that was read from a text may end where the text stops being JSON: an array
or object that was not closed, or a value that was not read at all.
-/

namespace QuickFill

/-- A JSON value, or as much of one as could be read. -/
inductive Json where
  | null
  | bool (value : Bool)
  /-- `plain` numbers are written with neither fraction nor exponent. -/
  | number (value : Decimal) (plain : Bool)
  | string (text : String)
  /-- A string with half of a surrogate pair, which is no text and can only be skipped. -/
  | halfPair
  | array (items : List Json) (closed : Bool)
  | object (members : List (Option String × Json)) (closed : Bool)
  /-- The place where the text stopped being JSON. -/
  | unread

namespace Json

def ofInt (number : Int) : Json :=
  .number (Decimal.ofInt number) true

def ofNat (number : Nat) : Json :=
  ofInt number

def ofList (items : List Json) : Json :=
  .array items true

def ofMembers (members : List (String × Json)) : Json :=
  .object (members.map fun member => (some member.1, member.2)) true

def ofText? : Option String → Json
  | some text => .string text
  | none => .null

mutual

/-- The value and all values inside it. -/
def nodes : Json → List Json
  | .array items closed => .array items closed :: nodesOfItems items
  | .object members closed => .object members closed :: nodesOfMembers members
  | value => [value]

def nodesOfItems : List Json → List Json
  | [] => []
  | item :: rest => nodes item ++ nodesOfItems rest

def nodesOfMembers : List (Option String × Json) → List Json
  | [] => []
  | (_, value) :: rest => nodes value ++ nodesOfMembers rest

end

mutual

/-- The greatest number of arrays and objects around one place of the value. -/
def depth : Json → Nat
  | .array items _ => depthOfItems items + 1
  | .object members _ => depthOfMembers members + 1
  | _ => 0

def depthOfItems : List Json → Nat
  | [] => 0
  | item :: rest => max (depth item) (depthOfItems rest)

def depthOfMembers : List (Option String × Json) → Nat
  | [] => 0
  | (_, value) :: rest => max (depth value) (depthOfMembers rest)

end

/-- Whether the outermost layer of the value was read to its end. -/
def isFinished : Json → Bool
  | .array _ closed => closed
  | .object _ closed => closed
  | .unread => false
  | _ => true

/-- Whether the value was read to its end. -/
def isComplete (value : Json) : Bool :=
  value.nodes.all isFinished

/-- Whether the value has no content: it was not read, is no text, or is a number
that is too large. -/
def isVoid : Json → Bool
  | .unread => true
  | .halfPair => true
  | .number value _ => value.isTooLarge
  | _ => false

/-- Whether the value is an object with a member that has no name. -/
def hasUnnamed : Json → Bool
  | .object members _ => members.any fun member => member.1.isNone
  | _ => false

/-- Whether the value can be kept, and not only be skipped: it was read to its end,
and all in it has a name and a content. -/
def isKept (value : Json) : Bool :=
  value.isComplete && value.nodes.all fun node => !node.isVoid && !node.hasUnnamed

/-- The integer that a value is; a negative zero is none. -/
def integer? : Json → Option Int
  | .number ⟨negative, digits, 0⟩ true =>
    if negative then
      if digits = 0 then none else some (-(digits : Int))
    else some digits
  | _ => none

end Json

end QuickFill
