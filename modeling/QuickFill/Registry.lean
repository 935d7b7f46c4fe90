import QuickFill.Fault

/-!
# Registries of inputs

Inputs that have a link are kept in two lists, one for each kind of links.  The
handle of an input is its place in its list; nothing is ever removed, so a handle
stays with its input.
-/

namespace QuickFill

/-- The inputs that have clock links and those that have calendar links. -/
structure Registry (ι : Type) where
  clock : List ι := []
  calendar : List ι := []
  deriving DecidableEq, Repr

namespace Registry

variable {ι : Type}

/-- The inputs of one kind, in the order of their handles. -/
def inputs (registry : Registry ι) : LinkKind → List ι
  | .clock => registry.clock
  | .calendar => registry.calendar

def push (registry : Registry ι) (input : ι) : LinkKind → Registry ι
  | .clock => { registry with clock := registry.clock ++ [input] }
  | .calendar => { registry with calendar := registry.calendar ++ [input] }

@[simp]
theorem inputs_push (registry : Registry ι) (input : ι) (kind other : LinkKind) :
    (registry.push input kind).inputs other =
      if other = kind then registry.inputs other ++ [input] else registry.inputs other := by
  cases kind <;> cases other <;> rfl

/-- Register an input, which gets the next handle of its kind; an input can be
registered once in each kind. -/
def register [DecidableEq ι] (registry : Registry ι) (kind : LinkKind) (input : ι) :
    Except Fault (Nat × Registry ι) :=
  if input ∈ registry.inputs kind then .error (.alreadyRegistered kind)
  else .ok ((registry.inputs kind).length, registry.push input kind)

def resolve (registry : Registry ι) (kind : LinkKind) (handle : Nat) : Except Fault ι :=
  match (registry.inputs kind)[handle]? with
  | some input => .ok input
  | none => .error (.unknownHandle kind handle)

def isEmpty (registry : Registry ι) : Bool :=
  registry.clock.isEmpty && registry.calendar.isEmpty

end Registry

end QuickFill
