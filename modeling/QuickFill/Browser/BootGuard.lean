import QuickFill.Fault

/-!
# When a page is booted

A page is booted when it has been loaded, and once only: the first boot claims the
page, and nothing gives the claim back.
-/

namespace QuickFill

/-- When the search of a page takes place. -/
inductive BootTiming where
  | immediate
  | onLoad
  deriving DecidableEq, Repr

/-- The timing for a state of a document: only one that is complete is searched
immediately. -/
def BootTiming.ofReadyState (state : Option String) : BootTiming :=
  if state = some "complete" then .immediate else .onLoad

structure BootGuard where
  claimed : Bool := false
  deriving DecidableEq, Repr

namespace BootGuard

def claim (guard : BootGuard) : Except Fault BootGuard :=
  if guard.claimed then .error .alreadyStarted else .ok ⟨true⟩

/-- Only an unclaimed page can be claimed. -/
theorem claim_eq_ok_iff (guard after : BootGuard) :
    guard.claim = .ok after ↔ guard.claimed = false ∧ after.claimed = true := by
  obtain ⟨claimed⟩ := guard
  obtain ⟨result⟩ := after
  cases claimed <;> cases result <;> simp [claim]

end BootGuard

end QuickFill
