import QuickFill.Proofs.Browser.Descent

/-!
# Elements that stay

Once a page is booted, its document loses and gets elements by scripts only.  What the session
does for readers changes values and hides boxes, and a boot that is refused has not yet touched
the document.
-/

namespace QuickFill

namespace PageEvent

/-- Whether a script adds or removes elements, or makes other events listen to the focus. -/
def isEdit : PageEvent → Bool
  | .append _ _ | .remove _ | .listen _ _ => true
  | _ => false

/-- An event in whose course no script adds elements or removes them, nor in that of what it
makes listen to the focus. -/
inductive Spares : PageEvent → Prop
  | listen (id : String) {events : List PageEvent} :
    (∀ event ∈ events, Spares event) → Spares (.listen id events)
  | other {event : PageEvent} : event.isEdit = false → Spares event

end PageEvent

namespace Browser

/-- Whatever listens to the focus on a page adds no elements and removes none. -/
def ListenersSpare (page : Browser) : Prop :=
  ∀ event ∈ page.listeners.flatMap Prod.snd, event.Spares

/-- The pages that come about from a booted page while no script adds elements or removes
them and nothing breaks it. -/
inductive AfterSparing (booted : Browser) : Browser → Prop
  | now : AfterSparing booted booted
  | step {page : Browser} {event : PageEvent} : event.Spares → AfterSparing booted page →
    (page.step event).2.broken = false → AfterSparing booted (page.step event).2
  | waited {page : Browser} (start : StartSettings) : AfterSparing booted page →
    AfterSparing booted (page.bootPending start)

/-- A claimed page with the elements of the page that was booted. -/
structure Retains (booted page : Browser) : Prop where
  claimed : page.guard.claimed = true
  elements_eq : page.document.elements.map Element.bare =
    booted.document.elements.map Element.bare
  listeners : page.ListenersSpare

variable {booted page changed : Browser}

theorem Retains.congr (retains : Retains booted page) (guardEq : changed.guard = page.guard)
    (documentEq : changed.document = page.document)
    (listenersEq : changed.listeners = page.listeners) : Retains booted changed where
  claimed := (congrArg BootGuard.claimed guardEq).trans retains.claimed
  elements_eq := by
    rw [documentEq]
    exact retains.elements_eq
  listeners := by
    rw [ListenersSpare, listenersEq]
    exact retains.listeners

/-- What is filled in, hidden or described stays what it is. -/
theorem Retains.modify (retains : Retains booted page) (key : Nat) {alter : Element → Element}
    (keeps : ∀ element, (alter element).bare = element.bare) :
    Retains booted { page with document := page.document.modify key alter } where
  claimed := retains.claimed
  elements_eq := (page.document.map_elements_modify key keeps).trans retains.elements_eq
  listeners := retains.listeners

theorem Retains.log (retains : Retains booted page) (event : LogEvent) :
    Retains booted (page.log event) := by
  obtain ⟨console, loggedEq⟩ := log_eq page event
  rw [loggedEq]
  exact retains.congr rfl rfl rfl

theorem Retains.logFailure (retains : Retains booted page) (fault : Fault) :
    Retains booted (page.logFailure fault) := by
  obtain ⟨console, loggedEq⟩ := logFailure_eq page fault
  rw [loggedEq]
  exact retains.congr rfl rfl rfl

theorem Retains.bootPending (retains : Retains booted page) (start : StartSettings) :
    Retains booted (page.bootPending start) := by
  obtain ⟨verbosity, console, refused⟩ := bootPending_of_claimed retains.claimed start
  rw [refused]
  exact retains.congr rfl rfl rfl

theorem Retains.dropObject (retains : Retains booted page) : Retains booted page.dropObject :=
  retains.congr rfl rfl rfl

theorem Retains.listen (retains : Retains booted page) (id : String) {events : List PageEvent}
    (spares : ∀ event ∈ events, event.Spares) : Retains booted (page.listen id events).2 := by
  rw [Browser.listen]
  cases page.document.withId? id with
  | none => exact retains
  | some element =>
      refine ⟨retains.claimed, retains.elements_eq, fun event member => ?_⟩
      rw [List.flatMap_append, List.mem_append] at member
      rcases member with before | now
      · exact retains.listeners event before
      · exact spares event (by simpa using now)

/-! ### Events -/

section Respond

variable {service : Service}
  (served : ∀ request {page : Browser}, Retains booted page →
    Retains booted (service request page).2)

include served

theorem Retains.followLink (retains : Retains booted page) (link : QuickLink) :
    Retains booted (followLink service page link) := by
  have after := served (.follow link) retains
  rw [Browser.followLink]
  split
  · exact retains.log _
  · exact retains
  · split
    all_goals next equal =>
      rw [equal] at after
      first
        | exact after
        | exact after.log _
        | exact after.logFailure _

theorem Retains.respond (retains : Retains booted page) {event : PageEvent}
    (spares : event.Spares) : Retains booted (page.respond service event).2 := by
  cases spares with
  | listen id spares => exact retains.listen id spares
  | other plain =>
      cases asks : event.asksForBoot with
      | true =>
          obtain ⟨verbosity, console, pending, refused⟩ :=
            respond_of_claimed service retains.claimed asks
          rw [refused]
          exact retains.congr rfl rfl rfl
      | false =>
          cases event with
          | boot _ | install _ | load => cases asks
          | release =>
              rw [Browser.respond]
              split
              · exact retains.dropObject
              · exact retains
          | describe holder =>
              rw [Browser.respond]
              split <;> exact retains
          | call holder call =>
              rcases respond_call_cases service page holder call with same | ⟨request, -, answered⟩
              · rw [same]
                exact retains
              · rw [answered]
                exact served request retains
          | click place =>
              rcases respond_click_cases service page place with same | ⟨key, link, -, followed⟩
              · rw [same]
                exact retains
              · rw [followed]
                have clicked : Retains booted { page with clicked := some key } :=
                  retains.congr rfl rfl rfl
                exact (clicked.followLink served link).congr rfl rfl rfl
          | blur => exact retains.congr rfl rfl rfl
          | setReading reading => exact retains.congr rfl rfl rfl
          | setReadyState state => exact retains.congr rfl rfl rfl
          | setGlobal name function =>
              rw [Browser.respond, setGlobal]
              split
              · split
                · exact retains.dropObject
                · exact retains
              · exact retains.congr rfl rfl rfl
          | setAttribute id name value =>
              rw [Browser.respond, setAttribute]
              split
              · exact retains
              · refine retains.modify _ fun element => ?_
                cases value <;> rfl
          | listen id events => cases plain
          | append id nodes => cases plain
          | remove id => cases plain

end Respond

theorem Retains.moveFocus (retains : Retains booted page) (key : Nat) :
    Retains booted (page.moveFocus key) := by
  have turnedAway (request : SessionRequest) {page : Browser} (retains : Retains booted page) :
      Retains booted (Service.busy request page).2 := retains
  have each (events : List PageEvent) (spares : ∀ event ∈ events, event.Spares) {middle : Browser}
      (before : Retains booted middle) : Retains booted (events.foldl respondBusy middle) := by
    induction events generalizing middle with
    | nil => exact before
    | cons event rest ih =>
        have responded := before.respond turnedAway (spares event List.mem_cons_self)
        exact ih (fun other member => spares other (List.mem_cons_of_mem _ member))
          (responded.congr rfl rfl rfl)
  rw [Browser.moveFocus]
  split
  · refine each _ (fun event member => ?_) (retains.congr rfl rfl rfl)
    obtain ⟨listener, listening, member⟩ := List.mem_flatMap.mp member
    exact retains.listeners event
      (List.mem_flatMap.mpr ⟨listener, List.mem_of_mem_filter listening, member⟩)
  · exact retains

theorem fillClosed_retains (booted : Browser) :
    Session.FillClosed fun running : Running Browser Nat => Retains booted running.page where
  logged event retains := retains.log event
  written retains written := by
    obtain rfl := Except.ok.inj written
    exact retains.modify _ fun _ => rfl
  focused retains focused := by
    obtain rfl := Except.ok.inj focused
    exact retains.moveFocus _
  hidden retains hidden := by
    obtain ⟨key, rfl⟩ := hide_eq_ok hidden
    exact retains.modify _ fun _ => rfl

theorem Retains.serve (request : SessionRequest) {page : Browser} (retains : Retains booted page) :
    Retains booted (page.serve request).2 := by
  cases slot : page.slot with
  | resting session =>
      have served := (fillClosed_retains booted).serve request
        ⟨session, { page with slot := .working }⟩ (retains.congr rfl rfl rfl)
      rcases serve_eq_final slot request with rested | breaks
      · rw [rested]
        exact served.congr rfl rfl rfl
      · rw [breaks]
        exact served.congr rfl rfl rfl
  | _ =>
      rw [Browser.serve, slot]
      exact retains

/-- What was in the document of a booted page stays there, and nothing comes to it, while no
script adds elements or removes them. -/
theorem Retains.after (retains : Retains booted booted) (reached : AfterSparing booted page) :
    Retains booted page := by
  induction reached with
  | now => exact retains
  | @step page event spares _ _ ih =>
      have cleared : Retains booted { page with console := [], nested := [] } :=
        ih.congr rfl rfl rfl
      exact cleared.respond Retains.serve spares
  | waited start _ ih => exact ih.bootPending start

end Browser

end QuickFill
