import QuickFill.Json.Decode

/-!
# Described pages

A page is described by the offset its server gives, its fields in order, and the
ids of the calendar boxes that it shows.
-/

namespace QuickFill

/-- The description of a field; fields of one container name stand together. -/
structure FieldFixture where
  id : String
  type : String
  classes : List String := []
  step : Option String := none
  value : String := ""
  container : Option String := none
  deriving DecidableEq, Repr

structure PageFixture where
  serverOffset : Option String := none
  fields : List FieldFixture := []
  boxes : List String := []
  deriving DecidableEq, Repr

open Json

namespace FieldFixture

def shape : Shape :=
  [field "id" asText, field "type" asText, field "classes" (asList asText),
    field "step" (asOption asText), field "value" asText, field "container" (asOption asText)]

def ofJson (value : Json) : Decoded FieldFixture := do
  let fields ← asRecord shape value
  return {
    id := ← required fields "id" asText
    type := ← required fields "type" asText
    classes := ← optional fields "classes" (asList asText) []
    step := ← optional fields "step" (asOption asText) none
    value := ← optional fields "value" asText ""
    container := ← optional fields "container" (asOption asText) none }

def toJson (described : FieldFixture) : Json :=
  .ofMembers [("id", .string described.id), ("type", .string described.type),
    ("classes", .ofList (described.classes.map .string)), ("step", .ofText? described.step),
    ("value", .string described.value), ("container", .ofText? described.container)]

end FieldFixture

namespace PageFixture

def shape : Shape :=
  [field "admin_utc_offset" (asOption asText), field "fields" (asList FieldFixture.ofJson),
    field "popups" (asList asText)]

def ofJson (value : Json) : Decoded PageFixture := do
  let fields ← asRecord shape value
  return {
    serverOffset := ← optional fields "admin_utc_offset" (asOption asText) none
    fields := ← optional fields "fields" (asList FieldFixture.ofJson) []
    boxes := ← optional fields "popups" (asList asText) [] }

def toJson (page : PageFixture) : Json :=
  .ofMembers [("admin_utc_offset", .ofText? page.serverOffset),
    ("fields", .ofList (page.fields.map FieldFixture.toJson)),
    ("popups", .ofList (page.boxes.map .string))]

end PageFixture

end QuickFill
