import QuickFill.Registry

/-!
# Handles of registered inputs

A registry only grows: a handle that resolves keeps its input whatever is registered
later, and a new input resolves from the first handle that was free.
-/

namespace QuickFill

namespace Registry

variable {ι : Type}

theorem resolve_eq_ok {registry : Registry ι} {kind : LinkKind} {handle : Nat} {input : ι} :
    registry.resolve kind handle = .ok input ↔ (registry.inputs kind)[handle]? = some input := by
  rw [resolve]
  cases (registry.inputs kind)[handle]? <;> simp

theorem resolve_of_length_le {registry : Registry ι} {kind : LinkKind} {handle : Nat}
    (beyond : (registry.inputs kind).length ≤ handle) :
    registry.resolve kind handle = .error (.unknownHandle kind handle) := by
  rw [resolve, List.getElem?_eq_none beyond]

theorem resolve_of_lt {registry : Registry ι} {kind : LinkKind} {handle : Nat}
    (known : handle < (registry.inputs kind).length) :
    ∃ input, registry.resolve kind handle = .ok input :=
  ⟨_, resolve_eq_ok.mpr (List.getElem?_eq_getElem known)⟩

theorem getElem?_push_of_some {registry : Registry ι} {kind : LinkKind} {handle : Nat} {input : ι}
    (registered : (registry.inputs kind)[handle]? = some input) (new : ι) (other : LinkKind) :
    ((registry.push new other).inputs kind)[handle]? = some input := by
  rw [inputs_push]
  split
  · rw [List.getElem?_append_left (List.getElem?_eq_some_iff.mp registered).1]
    exact registered
  · exact registered

/-- A new input gets the first free handle. -/
theorem getElem?_push_self (registry : Registry ι) (new : ι) (kind : LinkKind) :
    ((registry.push new kind).inputs kind)[(registry.inputs kind).length]? = some new := by
  simp

theorem getElem?_push {registry : Registry ι} {kind other : LinkKind} {new input : ι}
    {handle : Nat} (registered : ((registry.push new kind).inputs other)[handle]? = some input) :
    (registry.inputs other)[handle]? = some input ∨
      other = kind ∧ handle = (registry.inputs kind).length ∧ input = new := by
  rw [inputs_push] at registered
  split at registered
  · next same =>
    subst same
    rw [List.getElem?_append] at registered
    split at registered
    · exact Or.inl registered
    · next beyond =>
      obtain ⟨place, isInput⟩ := List.getElem?_eq_some_iff.mp registered
      rw [List.length_singleton] at place
      refine Or.inr ⟨rfl, by omega, ?_⟩
      simpa using isInput.symm
  · exact Or.inl registered

def extend (registry : Registry ι) (added : LinkKind → List ι) : Registry ι :=
  ⟨registry.clock ++ added .clock, registry.calendar ++ added .calendar⟩

theorem inputs_extend (registry : Registry ι) (added : LinkKind → List ι) (kind : LinkKind) :
    (registry.extend added).inputs kind = registry.inputs kind ++ added kind := by
  cases kind <;> rfl

theorem push_extend {registry : Registry ι} {added more : LinkKind → List ι} {input : ι}
    {kind : LinkKind}
    (oneMore : ∀ other, more other = if other = kind then added other ++ [input] else added other) :
    (registry.extend added).push input kind = registry.extend more := by
  cases kind <;> simp [extend, push, oneMore]

end Registry

end QuickFill
