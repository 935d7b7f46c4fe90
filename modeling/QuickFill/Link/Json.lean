import QuickFill.Json.Decode
import QuickFill.Link.Basic

/-!
# Links as JSON

A link is an object whose member `kind` says which other members it has; that
member may stand anywhere, so a link is read to its end before its other members
are looked at.
-/

namespace QuickFill

open Json

def handleOfJson : Json → Decoded Nat := asNat greatestNat64

def LinkKind.ofName (name : String) : Decoded LinkKind :=
  if name = "clock" then .ok .clock
  else if name = "calendar" then .ok .calendar
  else .error .mismatch

/-- Decode a kind of links: its name, or an object with that name for a null. -/
def LinkKind.ofJson : Json → Decoded LinkKind
  | .string name => LinkKind.ofName name
  | .object ((some name, value) :: rest) closed => do
    let kind ← LinkKind.ofName name
    match value with
    | .null => if rest.isEmpty && closed then .ok kind else .error .malformed
    | other => .error (wrong other)
  | _ => .error .malformed

namespace QuickLink

inductive Tag where
  | clockNow
  | calendarDay
  deriving DecidableEq, Repr

def Tag.name : Tag → String
  | .clockNow => "clock_now"
  | .calendarDay => "calendar_day"

def Tag.ofJson (value : Json) : Decoded Tag := do
  let name ← asText value
  if name = Tag.clockNow.name then .ok .clockNow
  else if name = Tag.calendarDay.name then .ok .calendarDay
  else .error .mismatch

/-- The greatest depth of a link that is read. -/
def depthLimit : Nat := 127

/-- Whether a value inside a link can be kept until the link is read; the link
itself is one level of the depth. -/
def isHeld (limit : Nat) (value : Json) : Bool :=
  value.isKept && value.depth < limit

/-- Split the members of a link into its kind and the others. -/
def splitTag (limit : Nat) (closed : Bool) :
    Option Tag → List (Option String × Json) → Decoded (Option Tag × List (String × Json))
  | tag, [] => if closed then .ok (tag, []) else .error .malformed
  | _, (none, _) :: _ => .error .malformed
  | tag, (some name, value) :: rest =>
    if name = "kind" then
      if tag.isSome then .error .mismatch
      else
        match Tag.ofJson value with
        | .error fault => .error fault
        | .ok found => splitTag limit closed (some found) rest
    else if isHeld limit value then
      (splitTag limit closed tag rest).map fun found => (found.1, (name, value) :: found.2)
    else .error .malformed

def shape : Tag → Shape
  | .clockNow => [field "handle" handleOfJson, field "format" asText]
  | .calendarDay =>
    [field "handle" handleOfJson, field "day_offset" (asInt leastInt64 greatestInt64)]

def ofFields (tag : Tag) (value : Json) : Decoded QuickLink := do
  let fields ← asRecord (shape tag) value
  let handle ← required fields "handle" handleOfJson
  match tag with
  | .clockNow => return .clockNow handle (← required fields "format" asText)
  | .calendarDay =>
    return .calendarDay handle (← required fields "day_offset" (asInt leastInt64 greatestInt64))

/-- Decode an action once all of it is read: any fault left is one of shape. -/
def ofKept (tag : Tag) (value : Json) : Decoded QuickLink :=
  match ofFields tag value with
  | .ok link => .ok link
  | .error _ => .error .mismatch

/-- Decode an action up to a depth: an object with its kind, or an array that starts
with it. -/
def ofJsonWithin (limit : Nat) : Json → Decoded QuickLink
  | .object members closed =>
    match splitTag limit closed none members with
    | .error fault => .error fault
    | .ok (none, _) => .error .mismatch
    | .ok (some tag, others) => ofKept tag (.ofMembers others)
  | .array [] closed => .error (if closed then .mismatch else .malformed)
  | .array (first :: others) closed =>
    match Tag.ofJson first with
    | .error fault => .error fault
    | .ok tag =>
      if closed && others.all (isHeld limit) then ofKept tag (.ofList others)
      else .error .malformed
  | other => .error (wrong other)

def ofJson : Json → Decoded QuickLink :=
  ofJsonWithin depthLimit

def toJson : QuickLink → Json
  | .clockNow handle template =>
    .ofMembers [("kind", .string Tag.clockNow.name), ("handle", .ofNat handle),
      ("format", .string template)]
  | .calendarDay handle days =>
    .ofMembers [("kind", .string Tag.calendarDay.name), ("handle", .ofNat handle),
      ("day_offset", .ofInt days)]

end QuickLink

namespace Shortcut

/-- Decode the action inside a span, which lies one level deeper. -/
def asAction : Json → Decoded QuickLink :=
  QuickLink.ofJsonWithin (QuickLink.depthLimit - 1)

def shape : Shape :=
  [field "container_class" asText, field "label" asText, field "action" asAction]

def ofJson (value : Json) : Decoded Shortcut := do
  let fields ← asRecord shape value
  return {
    spanClass := ← required fields "container_class" asText
    label := ← required fields "label" asText
    action := ← required fields "action" asAction }

def toJson (shortcut : Shortcut) : Json :=
  .ofMembers [("container_class", .string shortcut.spanClass),
    ("label", .string shortcut.label), ("action", shortcut.action.toJson)]

end Shortcut

namespace Note

def shape : Shape :=
  [field "classes" (asList asText), field "text" asText]

def ofJson (value : Json) : Decoded Note := do
  let fields ← asRecord shape value
  return {
    classes := ← required fields "classes" (asList asText)
    text := ← required fields "text" asText }

def toJson (note : Note) : Json :=
  .ofMembers [("classes", .ofList (note.classes.map .string)), ("text", .string note.text)]

end Note

end QuickFill
