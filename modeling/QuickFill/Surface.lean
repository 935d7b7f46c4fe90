import QuickFill.Clock.Instant
import QuickFill.Link.Basic
import QuickFill.Log.Event
import QuickFill.Settings.Basic
import QuickFill.Translator

/-!
# Surfaces

What the links ask of the page that they live on.  A page in memory and a
document in a browser are surfaces; each refuses a change as a whole or makes it.
-/

namespace QuickFill

/-- A field found on a page. -/
structure Field (ι : Type) where
  input : ι
  type : String
  classes : List String
  deriving DecidableEq, Repr

/-- The kinds of fields that links are attached to. -/
inductive FieldKind where
  | time
  | date
  | dateTime
  deriving DecidableEq, Repr

namespace Field

def hasClass {ι : Type} (described : Field ι) (name : String) : Bool :=
  described.classes.contains name

/-- The kind of a field: its type tells it, if the field carries the class of
that kind. -/
def kind? {ι : Type} (described : Field ι) (settings : Settings) : Option FieldKind :=
  if described.type = "time" ∧ described.hasClass settings.timeFieldClass then some .time
  else if described.type = "date" ∧ described.hasClass settings.dateFieldClass then some .date
  else if described.type = "datetime-local" ∧ described.hasClass settings.dateTimeFieldClass then
    some .dateTime
  else none

end Field

/-- What surrounds a page: a clock, a translator and a log. -/
class Environment (σ : Type) where
  clock : σ → Instant
  translator : σ → Translator
  record : LogEvent → σ → σ

/-- A page that links and notes can be put on. -/
class Attachable (σ : Type) (ι : outParam Type) where
  fields : σ → List (Field ι)
  insertShortcut : σ → ι → Shortcut → Except PageFault σ
  appendNote : σ → ι → Note → Except PageFault σ
  hasMarker : σ → ι → String → Bool

/-- A page whose inputs can be filled. -/
class Fillable (σ : Type) (ι : outParam Type) where
  step? : σ → ι → Option String
  write : σ → ι → String → Except PageFault σ
  focus : σ → ι → Except PageFault σ
  hide : σ → String → Except PageFault σ

end QuickFill
