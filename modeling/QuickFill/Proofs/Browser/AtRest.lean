import QuickFill.Proofs.Browser.FailedBoot

/-!
# Rest and work

The session of a booted page rests between the events of readers and scripts, until
nothing holds it any more, and works in the middle of some.  While it works the focus
listeners of the page may run any events; none of them gets hold of the session, claims
the page again or puts another object in the place of the first.
-/

namespace QuickFill

namespace PageEvent

/-- Whether an event may reach the session, or the object that holds it. -/
def concernsSession : PageEvent → Bool
  | .call _ _ | .click _ | .release | .setGlobal _ _ => true
  | _ => false

/-- Whether an event asks for boots, or for one that has waited. -/
def asksForBoot : PageEvent → Bool
  | .boot _ | .install _ | .load => true
  | _ => false

end PageEvent

namespace Browser

/-- A booted page between two events: its session rests for the object with the numbers of
the boot, or is gone with the object. -/
structure AtRest (report : BootReport) (clicked : Option Nat) (page : Browser) : Prop where
  claimed : page.guard.claimed = true
  windowed : page.hasWindow = true
  documented : page.hasDocument = true
  clicked_eq : page.clicked = clicked
  held : (∃ session holder, page.slot = .resting session ∧ page.object = some (holder, report)) ∨
    page.slot = .missing ∧ page.object = none

/-- A booted page whose session is at work. -/
structure InWork (report : BootReport) (clicked : Option Nat) (page : Browser) : Prop where
  claimed : page.guard.claimed = true
  windowed : page.hasWindow = true
  documented : page.hasDocument = true
  clicked_eq : page.clicked = clicked
  working : page.slot = .working
  report_eq : ∀ holder found, page.object = some (holder, found) → found = report

/-- What an event leaves as it is when it does not concern the session. -/
structure SameStanding (page after : Browser) : Prop where
  guard_eq : after.guard = page.guard
  hasWindow_eq : after.hasWindow = page.hasWindow
  hasDocument_eq : after.hasDocument = page.hasDocument
  clicked_eq : after.clicked = page.clicked
  slot_eq : after.slot = page.slot
  object_eq : after.object = page.object

variable {report : BootReport} {clicked : Option Nat} {page changed : Browser}

theorem SameStanding.refl (page : Browser) : SameStanding page page :=
  ⟨rfl, rfl, rfl, rfl, rfl, rfl⟩

theorem AtRest.congr (rests : AtRest report clicked page) (same : SameStanding page changed) :
    AtRest report clicked changed where
  claimed := (congrArg BootGuard.claimed same.guard_eq).trans rests.claimed
  windowed := same.hasWindow_eq.trans rests.windowed
  documented := same.hasDocument_eq.trans rests.documented
  clicked_eq := same.clicked_eq.trans rests.clicked_eq
  held := by
    rw [same.slot_eq, same.object_eq]
    exact rests.held

theorem InWork.congr (works : InWork report clicked page) (same : SameStanding page changed) :
    InWork report clicked changed where
  claimed := (congrArg BootGuard.claimed same.guard_eq).trans works.claimed
  windowed := same.hasWindow_eq.trans works.windowed
  documented := same.hasDocument_eq.trans works.documented
  clicked_eq := same.clicked_eq.trans works.clicked_eq
  working := same.slot_eq.trans works.working
  report_eq := by
    rw [same.object_eq]
    exact works.report_eq

theorem sameStanding_log (page : Browser) (event : LogEvent) :
    SameStanding page (page.log event) := by
  obtain ⟨console, loggedEq⟩ := log_eq page event
  rw [loggedEq]
  exact ⟨rfl, rfl, rfl, rfl, rfl, rfl⟩

/-- On a claimed page what asks for boots changes only what is shown, and what waits. -/
theorem respond_of_claimed (service : Service) (claimed : page.guard.claimed = true)
    {event : PageEvent} (asks : event.asksForBoot = true) :
    ∃ verbosity console pending, (page.respond service event).2 =
      { page with verbosity := verbosity, console := console, pending := pending } := by
  cases event with
  | boot choices =>
      obtain ⟨fault, verbosity, booted⟩ := boot_of_claimed claimed choices
      have responded : page.respond service (.boot choices) = page.meet (.boot choices) := rfl
      rw [responded, booted]
      exact ⟨verbosity, page.console, page.pending, rfl⟩
  | install choices =>
      have responded : page.respond service (.install choices) = page.meet (.install choices) := rfl
      rw [responded, install_of_claimed claimed]
      exact ⟨page.verbosity, page.console, page.pending, rfl⟩
  | load =>
      obtain ⟨-, verbosity, console, loaded⟩ := load_of_claimed claimed
      exact ⟨verbosity, console, [], loaded⟩
  | _ => cases asks

/-- On a claimed page only what concerns the session can change its standing. -/
theorem sameStanding_respond (service : Service) (claimed : page.guard.claimed = true)
    {event : PageEvent} (aside : event.concernsSession = false) :
    SameStanding page (page.respond service event).2 := by
  cases asks : event.asksForBoot with
  | true =>
      obtain ⟨verbosity, console, pending, refused⟩ := respond_of_claimed service claimed asks
      rw [refused]
      exact ⟨rfl, rfl, rfl, rfl, rfl, rfl⟩
  | false =>
      cases event with
      | call holder call => cases aside
      | click place => cases aside
      | release => cases aside
      | setGlobal name function => cases aside
      | boot _ | install _ | load => cases asks
      | describe holder =>
          rw [respond]
          cases page.objectOf? holder <;> exact SameStanding.refl page
      | listen id events =>
          rw [respond, listen]
          cases page.document.withId? id <;> exact ⟨rfl, rfl, rfl, rfl, rfl, rfl⟩
      | blur => exact ⟨rfl, rfl, rfl, rfl, rfl, rfl⟩
      | setReading reading => exact ⟨rfl, rfl, rfl, rfl, rfl, rfl⟩
      | setReadyState state => exact ⟨rfl, rfl, rfl, rfl, rfl, rfl⟩
      | setAttribute id name value =>
          rw [respond, setAttribute]
          cases page.document.withId? id <;> exact ⟨rfl, rfl, rfl, rfl, rfl, rfl⟩
      | append id nodes =>
          rw [respond, appendTo]
          cases page.document.withId? id <;> exact ⟨rfl, rfl, rfl, rfl, rfl, rfl⟩
      | remove id =>
          rw [respond, removeElement]
          cases page.document.withId? id <;> exact ⟨rfl, rfl, rfl, rfl, rfl, rfl⟩

theorem bootPending_of_claimed (claimed : page.guard.claimed = true) (start : StartSettings) :
    ∃ verbosity console, page.bootPending start =
      { page with verbosity := verbosity, console := console } := by
  obtain ⟨console, waited⟩ := bootPending_eq page start
  let attempt : BootAttempt := ⟨page, start, .window⟩
  have refused : attempt.passes = false := not_passes_of_claimed claimed
  obtain ⟨fault, stopped⟩ := outcome_of_not_passes refused
  rw [waited, stopped]
  exact ⟨start.verbosity, console, rfl⟩

/-- Nor does a boot that waited, once the page is claimed. -/
theorem sameStanding_bootPending (claimed : page.guard.claimed = true) (start : StartSettings) :
    SameStanding page (page.bootPending start) := by
  obtain ⟨verbosity, console, refused⟩ := bootPending_of_claimed claimed start
  rw [refused]
  exact ⟨rfl, rfl, rfl, rfl, rfl, rfl⟩

/-! ### While the session works -/

theorem InWork.dropObject (works : InWork report clicked page) :
    InWork report clicked page.dropObject where
  claimed := works.claimed
  windowed := works.windowed
  documented := works.documented
  clicked_eq := works.clicked_eq
  working := by rw [Browser.dropObject, works.working]
  report_eq holder found held := by cases held

theorem InWork.setGlobal (works : InWork report clicked page) (name : String)
    (function : Option PageFunction) : InWork report clicked (page.setGlobal name function) := by
  rw [Browser.setGlobal]
  split
  · split
    · exact works.dropObject
    · exact works
  · exact works.congr ⟨rfl, rfl, rfl, rfl, rfl, rfl⟩

/-- A link finds the session busy. -/
theorem followLink_busy (working : page.slot = .working) (link : QuickLink) :
    followLink .busy page link = page.log .linkBusy := by
  rw [followLink, working]
  rfl

/-- While the session works, a click on a link of its own is passed over with a warning, or
not noticed at all. -/
theorem InWork.click_busy (works : InWork report clicked page) (element : Element) :
    page.click .busy element =
      (element.action.isSome && page.clicked != some element.key,
        page.withConsole (page.console ++
          if (element.action.isSome && page.clicked != some element.key) ∧
            page.verbosity.admits .warn then [.logged .linkBusy] else [])) := by
  rw [Browser.click]
  cases element.action with
  | none =>
      simp only [Option.isSome_none, Bool.false_and, Bool.false_eq_true, false_and, if_false,
        List.append_nil]
      rfl
  | some link =>
      by_cases again : page.clicked = some element.key
      · simp only [again, Option.isSome_some, bne_self_eq_false, Bool.and_false,
          Bool.false_eq_true, false_and, if_false, if_true, List.append_nil]
        rfl
      · have noticed : (page.clicked != some element.key) = true := bne_iff_ne.mpr again
        have working : ({ page with clicked := some element.key } : Browser).slot = .working :=
          works.working
        simp only [if_neg again, followLink_busy working, log_eq_withConsole, noticed,
          Option.isSome_some, Bool.and_true, true_and]
        rfl

theorem InWork.click (works : InWork report clicked page) (element : Element) :
    InWork report clicked (page.click .busy element).2 := by
  rw [works.click_busy]
  exact works.congr ⟨rfl, rfl, rfl, rfl, rfl, rfl⟩

/-- Whatever focus listeners run, the session goes on working. -/
theorem InWork.respond (works : InWork report clicked page) (event : PageEvent) :
    InWork report clicked (page.respond .busy event).2 := by
  cases concerns : event.concernsSession with
  | false => exact works.congr (sameStanding_respond .busy works.claimed concerns)
  | true =>
      cases event with
      | call holder call =>
          rcases respond_call_cases .busy page holder call with same | ⟨request, -, served⟩
          · rw [same]
            exact works
          · rw [served]
            exact works
      | click place =>
          rw [Browser.respond]
          cases page.links[place]? with
          | none => exact works
          | some element => exact works.click element
      | release =>
          rw [Browser.respond]
          split
          · exact works.dropObject
          · exact works
      | setGlobal name function => exact works.setGlobal name function
      | _ => cases concerns

theorem InWork.foldl_respondBusy (works : InWork report clicked page) (events : List PageEvent) :
    InWork report clicked (events.foldl respondBusy page) := by
  induction events generalizing page with
  | nil => exact works
  | cons event rest ih =>
      have responded := works.respond event
      exact ih (responded.congr ⟨rfl, rfl, rfl, rfl, rfl, rfl⟩)

/-- The session works on whatever it writes, focuses, hides and logs. -/
theorem fillClosed_inWork (report : BootReport) (clicked : Option Nat) :
    Session.FillClosed fun running : Running Browser Nat =>
      InWork report clicked running.page where
  logged {running} event works := works.congr (sameStanding_log running.page event)
  written {running key text changed} works written := by
    obtain rfl := Except.ok.inj written
    exact works.congr ⟨rfl, rfl, rfl, rfl, rfl, rfl⟩
  focused {running key changed} works focused := by
    obtain rfl := Except.ok.inj focused
    have moved : InWork report clicked (running.page.moveFocus key) := by
      rw [moveFocus]
      split
      · have focusing : InWork report clicked { running.page with active := some key } :=
          works.congr ⟨rfl, rfl, rfl, rfl, rfl, rfl⟩
        exact focusing.foldl_respondBusy _
      · exact works
    exact moved
  hidden {running id changed} works hidden := by
    obtain ⟨key, rfl⟩ := hide_eq_ok hidden
    exact works.congr ⟨rfl, rfl, rfl, rfl, rfl, rfl⟩

/-! ### Between events -/

theorem InWork.rest (works : InWork report clicked page) (session : Session Nat) :
    AtRest report clicked (page.rest session) := by
  refine ⟨works.claimed, works.windowed, works.documented, works.clicked_eq, ?_⟩
  cases held : page.object with
  | none =>
      refine Or.inr ⟨?_, held⟩
      rw [Browser.rest, held]
      rfl
  | some object =>
      obtain ⟨holder, found⟩ := object
      obtain rfl := works.report_eq holder found held
      refine Or.inl ⟨session, holder, ?_, held⟩
      rw [Browser.rest, held]
      rfl

theorem AtRest.work (rests : AtRest report clicked page) :
    InWork report clicked { page with slot := .working } where
  claimed := rests.claimed
  windowed := rests.windowed
  documented := rests.documented
  clicked_eq := rests.clicked_eq
  working := rfl
  report_eq holder found held := by
    rcases rests.held with ⟨session, owner, -, object⟩ | ⟨-, object⟩
    · have same := Option.some.inj (held.symm.trans object)
      exact (Prod.mk.inj same).2
    · exact nomatch held.symm.trans object

theorem AtRest.serve (rests : AtRest report clicked page) {request : SessionRequest}
    (unbroken : (page.serve request).2.broken = false) :
    AtRest report clicked (page.serve request).2 := by
  rcases rests.held with ⟨session, holder, resting, -⟩ | ⟨missing, -⟩
  · rw [serve_eq_rest resting unbroken]
    exact ((fillClosed_inWork report clicked).serve request _ rests.work).rest _
  · rw [Browser.serve, missing]
    exact rests

theorem AtRest.dropObject (rests : AtRest report clicked page) :
    AtRest report clicked page.dropObject := by
  refine ⟨rests.claimed, rests.windowed, rests.documented, rests.clicked_eq, Or.inr ⟨?_, rfl⟩⟩
  rw [Browser.dropObject]
  rcases rests.held with ⟨session, holder, resting, -⟩ | ⟨missing, -⟩
  · rw [resting]
  · rw [missing]

theorem AtRest.withClicked (rests : AtRest report clicked page) (other : Option Nat) :
    AtRest report other { page with clicked := other } :=
  ⟨rests.claimed, rests.windowed, rests.documented, rfl, rests.held⟩

theorem AtRest.followLink (rests : AtRest report clicked page) {link : QuickLink}
    (unbroken : (Browser.followLink Browser.serve page link).broken = false) :
    AtRest report clicked (Browser.followLink Browser.serve page link) := by
  rcases rests.held with ⟨session, holder, resting, -⟩ | ⟨missing, -⟩
  · obtain ⟨console, followed⟩ := followLink_eq resting link
    rw [followed] at unbroken ⊢
    exact (rests.serve unbroken).congr ⟨rfl, rfl, rfl, rfl, rfl, rfl⟩
  · rw [Browser.followLink, missing]
    exact rests

/-- After every event that does not break it the page is at rest again. -/
theorem AtRest.respond (rests : AtRest report clicked page) {event : PageEvent}
    (unbroken : (page.respond Browser.serve event).2.broken = false) :
    AtRest report clicked (page.respond Browser.serve event).2 := by
  cases concerns : event.concernsSession with
  | false => exact rests.congr (sameStanding_respond Browser.serve rests.claimed concerns)
  | true =>
      cases event with
      | call holder call =>
          rcases respond_call_cases Browser.serve page holder call with same | ⟨request, -, served⟩
          · rw [same]
            exact rests
          · rw [served] at unbroken ⊢
            exact rests.serve unbroken
      | click place =>
          rcases respond_click_cases Browser.serve page place with same | ⟨key, link, -, followed⟩
          · rw [same]
            exact rests
          · rw [followed] at unbroken ⊢
            have after := ((rests.withClicked (some key)).followLink unbroken).withClicked
              page.clicked
            rwa [rests.clicked_eq] at after ⊢
      | release =>
          rw [Browser.respond]
          split
          · exact rests.dropObject
          · exact rests
      | setGlobal name function =>
          rw [Browser.respond, setGlobal]
          split
          · split
            · exact rests.dropObject
            · exact rests
          · exact rests.congr ⟨rfl, rfl, rfl, rfl, rfl, rfl⟩
      | _ => cases concerns

/-- The pages that come about from a booted page by events of any kind, of which none breaks
it, and by other boots that waited for the page to be loaded. -/
inductive After (booted : Browser) : Browser → Prop
  | now : After booted booted
  | step {page : Browser} (event : PageEvent) : After booted page →
    (page.step event).2.broken = false → After booted (page.step event).2
  | waited {page : Browser} (start : StartSettings) : After booted page →
    After booted (page.bootPending start)

theorem AtRest.after {booted : Browser} (rests : AtRest report none booted)
    (reached : After booted page) : AtRest report none page := by
  induction reached with
  | now => exact rests
  | @step page event _ unbroken ih =>
      have cleared : AtRest report none { page with console := [], nested := [] } :=
        ih.congr ⟨rfl, rfl, rfl, rfl, rfl, rfl⟩
      exact cleared.respond unbroken
  | waited start _ ih => exact ih.congr (sameStanding_bootPending ih.claimed start)

/-- A boot that succeeds leaves its session at rest. -/
theorem atRest_of_boot (idle : page.clicked = none) {start : StartSettings} {holder : Holder}
    {booted : Browser} (boots : page.boot start holder = (.ok report, booted)) :
    AtRest report none booted := by
  rw [boot_eq] at boots
  cases refused : page.refusal? with
  | some fault =>
      rw [refused] at boots
      cases boots
  | none =>
      rw [refused] at boots
      obtain ⟨windowed, documented, -⟩ := refusal?_eq_none.mp refused
      let claimed : Browser := { page with verbosity := start.verbosity, guard := ⟨true⟩ }
      have spares := final_start_spares claimed start.settings
      rw [Session.final] at spares
      simp only [startSession] at boots
      split at boots
      · next total running outcome =>
        rw [outcome] at spares
        obtain ⟨found, rfl⟩ := Prod.mk.inj boots
        obtain rfl := Except.ok.inj found
        exact ⟨congrArg BootGuard.claimed spares.guard_eq, spares.hasWindow_eq.trans windowed,
          spares.hasDocument_eq.trans documented, spares.clicked_eq.trans idle,
          Or.inl ⟨running.session, holder, rfl, rfl⟩⟩
      · cases boots

end Browser

end QuickFill
