import QuickFill.Json.Reader

/-!
# Decoding JSON

A decoder turns a value into a domain value or reports the first fault in
reading order: the text stopped being JSON, or a value has the wrong shape.  A
record is decoded from an object, whose members may come in any order and among
unknown ones, or from an array of its fields in their order.
-/

namespace QuickFill

namespace Json

inductive DecodeFault where
  /-- The text is not JSON. -/
  | malformed
  /-- The text is JSON of another shape. -/
  | mismatch
  deriving DecidableEq, Repr

abbrev Decoded (α : Type) := Except DecodeFault α

/-- The fault of a value that is not what was wanted. -/
def wrong (value : Json) : DecodeFault :=
  if value.isVoid then .malformed else .mismatch

def asText : Json → Decoded String
  | .string text => .ok text
  | value => .error (wrong value)

def asBool : Json → Decoded Bool
  | .bool value => .ok value
  | value => .error (wrong value)

def asInt (least greatest : Int) (value : Json) : Decoded Int :=
  match value.integer? with
  | some found =>
    if least ≤ found ∧ found ≤ greatest then .ok found else .error (wrong value)
  | none => .error (wrong value)

def asNat (greatest : Nat) (value : Json) : Decoded Nat :=
  (asInt 0 greatest value).map Int.toNat

def asOption {α : Type} (decode : Json → Decoded α) : Json → Decoded (Option α)
  | .null => .ok none
  | value => (decode value).map some

def decodeItems {α : Type} (decode : Json → Decoded α) (closed : Bool) :
    List Json → Decoded (List α)
  | [] => if closed then .ok [] else .error .malformed
  | item :: rest => do
    let first ← decode item
    let others ← decodeItems decode closed rest
    return first :: others

def asList {α : Type} (decode : Json → Decoded α) : Json → Decoded (List α)
  | .array items closed => decodeItems decode closed items
  | value => .error (wrong value)

/-- The fields of a record: their names in order, each with the check that its
value has to pass. -/
abbrev Shape := List (String × (Json → Decoded Unit))

def field {α : Type} (name : String) (decode : Json → Decoded α) :
    String × (Json → Decoded Unit) :=
  (name, fun value => (decode value).map fun _ => ())

/-- The known members of an object, checked in reading order; each member has a
name, and no known name may come twice. -/
def checkMembers (shape : Shape) (closed : Bool) :
    List (String × Json) → List (Option String × Json) → Decoded (List (String × Json))
  | seen, [] => if closed then .ok seen else .error .malformed
  | _, (none, _) :: _ => .error .malformed
  | seen, (some name, value) :: rest =>
    match shape.lookup name with
    | none =>
      if value.isComplete then checkMembers shape closed seen rest else .error .malformed
    | some check =>
      if (seen.lookup name).isSome then .error .mismatch
      else
        match check value with
        | .error fault => .error fault
        | .ok () => checkMembers shape closed (seen ++ [(name, value)]) rest

/-- The items of an array as the fields of a record, checked in order; an item
past the last field is no part of the record. -/
def checkItems (closed : Bool) : Shape → List Json → Decoded (List (String × Json))
  | _, [] => if closed then .ok [] else .error .malformed
  | [], _ :: _ => .error .malformed
  | (name, check) :: shape, value :: rest =>
    match check value with
    | .error fault => .error fault
    | .ok () => (checkItems closed shape rest).map ((name, value) :: ·)

/-- The known fields of a record value, each checked. -/
def asRecord (shape : Shape) : Json → Decoded (List (String × Json))
  | .object members closed => checkMembers shape closed [] members
  | .array items closed => checkItems closed shape items
  | value => .error (wrong value)

def required {α : Type} (fields : List (String × Json)) (name : String)
    (decode : Json → Decoded α) : Decoded α :=
  match fields.lookup name with
  | some value => decode value
  | none => .error .mismatch

/-- A field that has a value of its own when it is not there. -/
def optional {α : Type} (fields : List (String × Json)) (name : String)
    (decode : Json → Decoded α) (absent : α) : Decoded α :=
  match fields.lookup name with
  | some value => decode value
  | none => .ok absent

/-- Decode a whole text; a wrong value counts before what follows it. -/
def decodeText {α : Type} (decode : Json → Decoded α) (text : String) : Decoded α :=
  let (value, alone) := read text.toList
  match decode value with
  | .error fault => .error fault
  | .ok found => if alone then .ok found else .error .malformed

end Json

end QuickFill
