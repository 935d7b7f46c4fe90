import QuickFill.Browser.Run
import QuickFill.Proofs.Browser.Attempt

/-!
# What levels have to do with

The verbosity of a page is only asked when a line is about to be logged.  What a boot does
and answers is therefore the same on two pages that differ in their verbosity, in their
consoles, in what waits on them and in what listens on them; there is one list of lines that
the boot has to tell on both, and each page shows those that its verbosity admits.
-/

namespace QuickFill

/-- Whether a line is shown: what no script waits for is shown in any case. -/
def Verbosity.shows (verbosity : Verbosity) : ConsoleLine → Bool
  | .logged event => verbosity.admits event.level
  | .uncaught _ => true

/-- The part of a page that levels have to do with: what it shows, how much it shows, and what
may choose how much it shows later. -/
structure Tuning where
  console : List ConsoleLine
  verbosity : Verbosity
  pending : List StartSettings
  listeners : List (Nat × List PageEvent)

namespace Tuning

variable (tuning : Tuning)

/-- Tell lines to the console, which shows those that it may. -/
def tell (lines : List ConsoleLine) : Tuning :=
  { tuning with console := tuning.console ++ lines.filter tuning.verbosity.shows }

def withVerbosity (verbosity : Verbosity) : Tuning :=
  { tuning with verbosity := verbosity }

@[simp]
theorem tell_nil : tuning.tell [] = tuning := by
  rw [tell, List.filter_nil, List.append_nil]

theorem tell_append (lines more : List ConsoleLine) :
    tuning.tell (lines ++ more) = (tuning.tell lines).tell more := by
  rw [tell, tell, tell, List.filter_append, List.append_assoc]

end Tuning

namespace Browser

def tuning (page : Browser) : Tuning :=
  ⟨page.console, page.verbosity, page.pending, page.listeners⟩

/-- A page with the tuning of another. -/
def tuned (page : Browser) (tuning : Tuning) : Browser :=
  { page with
    console := tuning.console
    verbosity := tuning.verbosity
    pending := tuning.pending
    listeners := tuning.listeners }

variable (page : Browser) (tuning : Tuning)

end Browser

/-! ### Sessions -/

def Running.tuned (running : Running Browser Nat) (tuning : Tuning) : Running Browser Nat :=
  running.withPage (running.page.tuned tuning)

/-- An outcome on a page with the tuning of another. -/
def Session.retuned {α : Type} (tuning : Tuning) :
    EStateM.Result Fault (Running Browser Nat) α → EStateM.Result Fault (Running Browser Nat) α
  | .ok value after => .ok value (after.tuned tuning)
  | .error fault after => .error fault (after.tuned tuning)

namespace Session

variable {α β : Type}

/-- An operation that does not depend on the tuning of its page and has the same lines to tell
whatever that is. -/
def Tells (action : Action Browser Nat α) : Prop :=
  ∀ running, ∃ lines, ∀ tuning,
    action.run (running.tuned tuning) = retuned (tuning.tell lines) (action.run running)

theorem Tells.bind {action : Action Browser Nat α} {next : α → Action Browser Nat β}
    (first : Tells action) (second : ∀ value, Tells (next value)) : Tells (action >>= next) := by
  intro running
  obtain ⟨lines, told⟩ := first running
  simp only [EStateM.run_bind, told]
  cases outcome : action.run running with
  | error fault after => exact ⟨lines, fun _ => rfl⟩
  | ok value after =>
      obtain ⟨more, toldMore⟩ := second value after
      refine ⟨lines ++ more, fun tuning => ?_⟩
      rw [Tuning.tell_append]
      exact toldMore (tuning.tell lines)

theorem Tells.pure (value : α) : Tells (pure value) := by
  refine fun running => ⟨[], fun tuning => ?_⟩
  rw [Tuning.tell_nil]
  rfl

theorem Tells.foldlM {δ : Type} {step : β → δ → Action Browser Nat β}
    (each : ∀ total item, Tells (step total item)) (items : List δ) (start : β) :
    Tells (items.foldlM step start) := by
  induction items generalizing start with
  | nil => exact Tells.pure start
  | cons item rest ih =>
      rw [List.foldlM_cons]
      exact Tells.bind (each start item) fun total => ih total

theorem Tells.throw (fault : Fault) : Tells (throw fault : Action Browser Nat α) := by
  refine fun running => ⟨[], fun tuning => ?_⟩
  rw [Tuning.tell_nil]
  rfl

theorem Tells.change {alter : Browser → Except PageFault Browser}
    (tuned : ∀ page tuning, alter (Browser.tuned page tuning) =
      (alter page).map fun changed => changed.tuned tuning) : Tells (change alter) := by
  refine fun running => ⟨[], fun tuning => ?_⟩
  have altered : alter (running.tuned tuning).page =
      (alter running.page).map fun changed => changed.tuned tuning := tuned running.page tuning
  rw [run_change, run_change, altered, Tuning.tell_nil]
  cases alter running.page <;> rfl

end Session

/-! ### Boots -/

namespace Browser

variable (page : Browser)

end Browser

end QuickFill
