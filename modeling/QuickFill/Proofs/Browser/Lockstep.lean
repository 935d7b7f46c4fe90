import QuickFill.Proofs.Browser.Kindred
import QuickFill.Proofs.Session.Filling

/-!
# Pages in lockstep

A family of pages that differ in their tunings only, and a family of events that differ in the
levels that they choose only, stay in lockstep: all pages give one answer and become pages that
differ in their tunings only, and all of them tell the same lines.  Each member of a family has
a list of the levels that may come into force on it; which of them is in force when a line is
told is the same in all members.
-/

namespace QuickFill

variable {ι : Type}

/-- A choice of levels that is found at one place in the lists of all members. -/
def Placed (levels : ι → List Verbosity) (level : ι → Verbosity) : Prop :=
  ∃ place : Nat, ∀ member, (levels member)[place]? = some (level member)

/-- Whether an event, or what it has run later, may choose levels. -/
def PageEvent.hasLevels : PageEvent → Bool
  | .boot _ | .install _ | .listen _ _ => true
  | _ => false

namespace Browser

variable (base : ι) (levels : ι → List Verbosity)

/-- Choices of boots that differ in placed levels only. -/
structure StartFamily (start : ι → StartSettings) : Prop where
  settings_eq : ∃ settings, ∀ member, (start member).settings = settings
  placed : Placed levels fun member => (start member).verbosity

/-- Tunings that come of one and the same course of events, one of them being the base. -/
structure Kin (family : ι → Tuning) : Prop where
  placed : Placed levels fun member => (family member).verbosity
  pending : ∃ starts : List (ι → StartSettings),
    (∀ member, (family member).pending = starts.map fun start => start member) ∧
      ∀ start ∈ starts, StartFamily levels start
  listeners : ∀ member, SameListeners (family base).listeners (family member).listeners

/-- The choices of a script, in all members of a family. -/
inductive ChoicesFamily (choices : ι → Option Json) : Prop
  | refused (fault : ScriptFault) :
    (∀ member, StartSettings.ofChoices (choices member) = .error fault) → ChoicesFamily choices
  | chosen (start : ι → StartSettings) : StartFamily levels start →
    (∀ member, StartSettings.ofChoices (choices member) = .ok (start member)) →
      ChoicesFamily choices

/-- Events that differ in placed levels only. -/
inductive EventFamily : (ι → PageEvent) → Prop
  | boot {choices : ι → Option Json} : ChoicesFamily levels choices →
    EventFamily fun member => .boot (choices member)
  | install {choices : ι → Option Json} : ChoicesFamily levels choices →
    EventFamily fun member => .install (choices member)
  | listen (id : String) {events : ι → List PageEvent} :
    (∀ member, List.Forall₂ SameButLevel (events base) (events member)) →
      EventFamily fun member => .listen id (events member)
  | other {event : PageEvent} : event.hasLevels = false → EventFamily fun _ => event

/-- What becomes of the tunings of a family when lines are told and levels are chosen. -/
structure Goes (family after : ι → Tuning) : Prop where
  kin : Kin base levels after
  told : ∃ course, ∀ member, (after member).console =
    (family member).console ++ told (levels member) course

/-- Pages that have one answer, and are one page but for their tunings. -/
def Together {α : Type} (family : ι → Tuning) (result : ι → α × Browser) : Prop :=
  ∃ answer, ∃ page : Browser, ∃ after, Goes base levels family after ∧
    ∀ member, result member = (answer, page.tuned (after member))

/-- Pages that are one page but for their tunings. -/
def Turns (family : ι → Tuning) (pages : ι → Browser) : Prop :=
  ∃ page : Browser, ∃ after, Goes base levels family after ∧
    ∀ member, pages member = page.tuned (after member)

variable {base : ι} {levels : ι → List Verbosity} {family after : ι → Tuning}

/-! ### What is told -/

theorem told_append (listed : List Verbosity) (course more : List (Nat × ConsoleLine)) :
    told listed (course ++ more) = told listed course ++ told listed more := by
  rw [told, told, told, List.filter_append, List.map_append]

theorem told_map {listed : List Verbosity} {place : Nat} {level : Verbosity}
    (placed : listed[place]? = some level) (lines : List ConsoleLine) :
    told listed (lines.map fun line => (place, line)) = lines.filter level.shows := by
  rw [told, List.filter_map, List.map_map]
  have sameLine : (Prod.snd ∘ fun line : ConsoleLine => (place, line)) = id := rfl
  have sameTest : ((fun entry : Nat × ConsoleLine =>
      listed[entry.1]?.any fun level => level.shows entry.2) ∘ fun line => (place, line)) =
        level.shows := by
    funext line
    simp [placed]
  rw [sameLine, List.map_id, sameTest]

theorem Kin.stays (kin : Kin base levels family) : Goes base levels family family where
  kin := kin
  told := ⟨[], fun _ => (List.append_nil _).symm⟩

theorem Goes.trans {later : ι → Tuning} (first : Goes base levels family after)
    (second : Goes base levels after later) : Goes base levels family later where
  kin := second.kin
  told := by
    obtain ⟨course, told⟩ := first.told
    obtain ⟨more, toldMore⟩ := second.told
    refine ⟨course ++ more, fun member => ?_⟩
    rw [toldMore, told, told_append, List.append_assoc]

/-- All members tell some lines. -/
theorem Kin.tell (kin : Kin base levels family) (lines : List ConsoleLine) :
    Goes base levels family fun member => (family member).tell lines where
  kin := ⟨kin.placed, kin.pending, kin.listeners⟩
  told := by
    obtain ⟨place, placed⟩ := kin.placed
    exact ⟨lines.map fun line => (place, line), fun member => by
      rw [told_map (placed member)]
      rfl⟩

/-- All members get other levels, and tell nothing. -/
theorem Kin.withVerbosity (kin : Kin base levels family) {level : ι → Verbosity}
    (placed : Placed levels level) :
    Goes base levels family fun member => (family member).withVerbosity (level member) where
  kin := ⟨placed, kin.pending, kin.listeners⟩
  told := ⟨[], fun _ => (List.append_nil _).symm⟩

/-! ### Boots -/

theorem Kin.chosen (kin : Kin base levels family) {start : ι → StartSettings}
    (starts : StartFamily levels start) (lines : List ConsoleLine) :
    Goes base levels family fun member =>
      ((family member).withVerbosity (start member).verbosity).tell lines :=
  have chooses := kin.withVerbosity starts.placed
  chooses.trans (chooses.kin.tell lines)

/-- What all members do in the same way, whatever their tuning is. -/
theorem Kin.together {α : Type} (kin : Kin base levels family) (answer : α) (page : Browser)
    {result : ι → α × Browser} (same : ∀ member, result member =
      (answer, page.tuned (family member))) : Together base levels family result :=
  ⟨answer, page, family, kin.stays, same⟩

theorem Kin.turns (kin : Kin base levels family) (page : Browser) {pages : ι → Browser}
    (same : ∀ member, pages member = page.tuned (family member)) :
    Turns base levels family pages :=
  ⟨page, family, kin.stays, same⟩

theorem Together.map {α β : Type} {result : ι → α × Browser}
    (together : Together base levels family result) (answer : α → β) {found : ι → β × Browser}
    (mapped : ∀ member, found member = (answer (result member).1, (result member).2)) :
    Together base levels family found := by
  obtain ⟨value, page, after, goes, same⟩ := together
  refine ⟨answer value, page, after, goes, fun member => ?_⟩
  rw [mapped, same]

theorem Turns.answer {α : Type} {pages : ι → Browser} (turns : Turns base levels family pages)
    (answer : α) : Together base levels family fun member => (answer, pages member) := by
  obtain ⟨page, after, goes, same⟩ := turns
  exact ⟨answer, page, after, goes, fun member => congrArg (Prod.mk answer) (same member)⟩

section Respond

variable {service : Service} (kin : Kin base levels family)
  (serves : ∀ request page, Together base levels family fun member =>
    service request (Browser.tuned page (family member)))

include kin serves

end Respond

/-- What listens to an element, on all members. -/
def Hears (base : ι) (levels : ι → List Verbosity) (family : ι → Tuning) : Prop :=
  ∀ key, ∃ events : List (ι → PageEvent), (∀ event ∈ events, EventFamily base levels event) ∧
    ∀ member, ((family member).listeners.filter fun listener => listener.1 == key).flatMap
      Prod.snd = events.map fun event => event member

end Browser

end QuickFill
