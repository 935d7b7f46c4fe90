import QuickFill.Browser.Run
import QuickFill.Proofs.Browser.Start
import QuickFill.Proofs.Session.Invariant

/-!
# A page after its boot

Readers click links and scripts call the session, in any order.  While no script
changes the document or listens to the focus, all this only fills in and hides
elements and moves the focus: the elements stay where they are, and so do the
registered inputs.
-/

namespace QuickFill

/-- An element without what filling in and hiding change. -/
def Element.blank (element : Element) : Element :=
  { element with value := "", hidden := false }

def Element.filled (text : String) (element : Element) : Element :=
  { element with value := text }

/-- Whether an event comes from a reader of the page, from the clock, or from a script
that only talks to the session. -/
def PageEvent.isPlain : PageEvent → Bool
  | .click _ | .call _ _ | .describe _ | .blur | .setReading _ | .setReadyState _ => true
  | _ => false

namespace Browser

/-- What stays of a page: its elements but for what is filled in and hidden, the
registered inputs, the object that scripts reach, and that nothing listens. -/
structure Settled (elements : List Element) (registry : Registry Nat) (clicked : Option Nat)
    (page : Browser) : Prop where
  elements_eq : page.document.elements.map Element.blank = elements
  slot_eq : ∃ session, page.slot = .resting session ∧ session.registry = registry
  object_isSome : page.object.isSome
  listeners_eq : page.listeners = []
  clicked_eq : page.clicked = clicked

/-- The same of a page whose session is at work. -/
structure Busy (elements : List Element) (registry : Registry Nat) (clicked : Option Nat)
    (running : Running Browser Nat) : Prop where
  elements_eq : running.page.document.elements.map Element.blank = elements
  registry_eq : running.session.registry = registry
  object_isSome : running.page.object.isSome
  listeners_eq : running.page.listeners = []
  clicked_eq : running.page.clicked = clicked

variable {elements : List Element} {registry : Registry Nat} {clicked : Option Nat}
  {page : Browser}

/-- Nothing listens to the focus of the element with a key. -/
def Unheard (page : Browser) (key : Nat) : Prop :=
  ∀ listener ∈ page.listeners, listener.1 ≠ key

theorem unheard_of_quiet (quiet : page.listeners = []) (key : Nat) : page.Unheard key := by
  rw [Unheard, quiet]
  exact List.forall_mem_nil _

/-- With nothing that listens, moving the focus changes nothing else. -/
theorem moveFocus_eq {key : Nat} (unheard : page.Unheard key) :
    page.moveFocus key =
      { page with active := if page.document.contains key then some key else page.active } := by
  have silent : page.listeners.filter (fun listener => listener.1 == key) = [] := by
    rw [List.filter_eq_nil_iff]
    intro listener member
    rw [beq_iff_eq]
    exact unheard listener member
  rw [moveFocus]
  by_cases moves : page.document.contains key ∧ page.active ≠ some key
  · rw [if_pos moves, if_pos moves.1]
    simp only [silent]
    rfl
  · rw [if_neg moves]
    by_cases inside : page.document.contains key = true
    · have same : page.active = some key := by
        by_contra differs
        exact moves ⟨inside, differs⟩
      rw [if_pos inside, ← same]
    · rw [if_neg inside]

theorem hide_eq_ok {id : String} {changed : Browser} (hidden : page.hide id = .ok changed) :
    ∃ key, changed = { page with
      document := page.document.modify key fun element => { element with hidden := true } } := by
  rw [Browser.hide] at hidden
  split at hidden
  · cases hidden
  · split at hidden
    · exact ⟨_, (Except.ok.inj hidden).symm⟩
    · cases hidden

theorem fillClosed_busy (elements : List Element) (registry : Registry Nat)
    (clicked : Option Nat) : Session.FillClosed (Busy elements registry clicked) where
  logged {running} event busy := by
    obtain ⟨console, loggedEq⟩ := log_eq running.page event
    have pageEq : (running.logged event).page = running.page.withConsole console := loggedEq
    refine ⟨?_, busy.registry_eq, ?_, ?_, ?_⟩
    all_goals rw [pageEq]
    · exact busy.elements_eq
    · exact busy.object_isSome
    · exact busy.listeners_eq
    · exact busy.clicked_eq
  written {running key text changed} busy written := by
    obtain rfl := Except.ok.inj written
    refine ⟨?_, busy.registry_eq, busy.object_isSome, busy.listeners_eq, busy.clicked_eq⟩
    rw [← busy.elements_eq]
    exact Forest.map_elements_modify _ key fun _ => rfl
  focused {running key changed} busy focused := by
    obtain rfl := Except.ok.inj focused
    rw [moveFocus_eq (unheard_of_quiet busy.listeners_eq _)]
    exact ⟨busy.elements_eq, busy.registry_eq, busy.object_isSome, busy.listeners_eq,
      busy.clicked_eq⟩
  hidden {running id changed} busy hidden := by
    obtain ⟨key, rfl⟩ := hide_eq_ok hidden
    refine ⟨?_, busy.registry_eq, busy.object_isSome, busy.listeners_eq, busy.clicked_eq⟩
    rw [← busy.elements_eq]
    exact Forest.map_elements_modify _ key fun _ => rfl

theorem Busy.rest {running : Running Browser Nat} (busy : Busy elements registry clicked running) :
    Settled elements registry clicked (running.page.rest running.session) := by
  refine ⟨busy.elements_eq, ⟨running.session, ?_, busy.registry_eq⟩, busy.object_isSome,
    busy.listeners_eq, busy.clicked_eq⟩
  rw [Browser.rest, if_pos busy.object_isSome]

/-- After a request the session is put back, or the page is broken. -/
theorem serve_eq_final {session : Session Nat} (resting : page.slot = .resting session)
    (request : SessionRequest) :
    let ended := Session.final (Session.serve request) ⟨session, { page with slot := .working }⟩
    (page.serve request).2 = ended.page.rest ended.session ∨
      (page.serve request).2 = { ended.page with broken := true } := by
  simp only [Session.final, Browser.serve, resting]
  cases (Session.serve request).run ⟨session, { page with slot := .working }⟩ with
  | ok text running => exact Or.inl rfl
  | error fault running =>
      simp only [restAfter]
      split
      · exact Or.inr rfl
      · exact Or.inl rfl

theorem serve_eq_rest {session : Session Nat} (resting : page.slot = .resting session)
    {request : SessionRequest} (unbroken : (page.serve request).2.broken = false) :
    let ended := Session.final (Session.serve request) ⟨session, { page with slot := .working }⟩
    (page.serve request).2 = ended.page.rest ended.session := by
  rcases serve_eq_final resting request with rested | breaks
  · exact rested
  · rw [breaks] at unbroken
    cases unbroken

/-- Whatever is asked of the session, the page stays settled, if it does not break. -/
theorem Settled.serve (settled : Settled elements registry clicked page)
    {request : SessionRequest} (unbroken : (page.serve request).2.broken = false) :
    Settled elements registry clicked (page.serve request).2 := by
  obtain ⟨session, slotEq, registryEq⟩ := settled.slot_eq
  have busy : Busy elements registry clicked ⟨session, { page with slot := .working }⟩ :=
    ⟨settled.elements_eq, registryEq, settled.object_isSome, settled.listeners_eq,
      settled.clicked_eq⟩
  rw [serve_eq_rest slotEq unbroken]
  exact ((fillClosed_busy elements registry clicked).serve request _ busy).rest

theorem Settled.withConsole (settled : Settled elements registry clicked page)
    (console : List ConsoleLine) : Settled elements registry clicked (page.withConsole console) :=
  ⟨settled.elements_eq, settled.slot_eq, settled.object_isSome, settled.listeners_eq,
    settled.clicked_eq⟩

theorem Settled.log (settled : Settled elements registry clicked page) (event : LogEvent) :
    Settled elements registry clicked (page.log event) := by
  obtain ⟨console, loggedEq⟩ := log_eq page event
  rw [loggedEq]
  exact settled.withConsole console

theorem logFailure_eq (browser : Browser) (fault : Fault) :
    ∃ console, browser.logFailure fault = browser.withConsole console := by
  rw [logFailure]
  split
  · exact ⟨_, rfl⟩
  · exact log_eq _ _

/-- Following a link asks the session, and then at most logs something. -/
theorem followLink_eq {session : Session Nat} (resting : page.slot = .resting session)
    (link : QuickLink) :
    ∃ console, followLink serve page link =
      (page.serve (.follow link)).2.withConsole console := by
  rw [followLink, resting]
  simp only
  rcases page.serve (.follow link) with ⟨outcome, after⟩
  split
  · next equal =>
    obtain ⟨-, rfl⟩ := Prod.mk.inj equal
    exact ⟨_, rfl⟩
  · next equal =>
    obtain ⟨-, rfl⟩ := Prod.mk.inj equal
    exact log_eq _ _
  · next equal =>
    obtain ⟨-, rfl⟩ := Prod.mk.inj equal
    exact logFailure_eq _ _
  · next equal =>
    obtain ⟨-, rfl⟩ := Prod.mk.inj equal
    exact ⟨_, rfl⟩

/-- A call leaves the page alone, or is served. -/
theorem respond_call_cases (service : Service) (page : Browser) (holder : Holder)
    (call : ScriptCall) :
    (page.respond service (.call holder call)).2 = page ∨
      ∃ request, call.request = .ok request ∧
        (page.respond service (.call holder call)).2 = (service request page).2 := by
  rw [respond, callSession]
  split
  · exact Or.inl rfl
  · cases call.request with
    | error fault => exact Or.inl rfl
    | ok request => exact Or.inr ⟨request, rfl, rfl⟩

/-- A click leaves the page alone, or follows a link that is not being clicked already. -/
theorem respond_click_cases (service : Service) (page : Browser) (place : Nat) :
    (page.respond service (.click place)).2 = page ∨
      ∃ key link, page.clicked ≠ some key ∧ (page.respond service (.click place)).2 =
        { followLink service { page with clicked := some key } link with
          clicked := page.clicked } := by
  rw [respond]
  split
  · exact Or.inl rfl
  · next element _ =>
    simp only [click]
    split
    · exact Or.inl rfl
    · next link _ =>
      split
      · exact Or.inl rfl
      · next other => exact Or.inr ⟨element.key, link, other, rfl⟩

theorem Settled.respond (settled : Settled elements registry none page) {event : PageEvent}
    (plain : event.isPlain) (unbroken : (page.respond Browser.serve event).2.broken = false) :
    Settled elements registry none (page.respond Browser.serve event).2 := by
  cases event with
  | click place =>
      rcases respond_click_cases Browser.serve page place with same | ⟨key, link, -, followed⟩
      · rw [same]
        exact settled
      · have during : Settled elements registry (some key) { page with clicked := some key } :=
          ⟨settled.elements_eq, settled.slot_eq, settled.object_isSome, settled.listeners_eq, rfl⟩
        obtain ⟨session, slotEq, -⟩ := during.slot_eq
        obtain ⟨console, followedEq⟩ := followLink_eq slotEq link
        rw [followed, followedEq] at unbroken ⊢
        have served := (during.serve unbroken).withConsole console
        exact ⟨served.elements_eq, served.slot_eq, served.object_isSome, served.listeners_eq,
          settled.clicked_eq⟩
  | call holder call =>
      rcases respond_call_cases Browser.serve page holder call with same | ⟨request, -, served⟩
      · rw [same]
        exact settled
      · rw [served] at unbroken ⊢
        exact settled.serve unbroken
  | describe holder =>
      rw [Browser.respond]
      cases page.objectOf? holder <;> exact settled
  | blur =>
      exact ⟨settled.elements_eq, settled.slot_eq, settled.object_isSome, settled.listeners_eq,
        settled.clicked_eq⟩
  | setReading reading =>
      exact ⟨settled.elements_eq, settled.slot_eq, settled.object_isSome, settled.listeners_eq,
        settled.clicked_eq⟩
  | setReadyState state =>
      exact ⟨settled.elements_eq, settled.slot_eq, settled.object_isSome, settled.listeners_eq,
        settled.clicked_eq⟩
  | boot choices => cases plain
  | install choices => cases plain
  | load => cases plain
  | release => cases plain
  | listen id events => cases plain
  | setGlobal name function => cases plain
  | setAttribute id name value => cases plain
  | append id nodes => cases plain
  | remove id => cases plain

/-- The pages that come about from a page by plain events, of which none breaks it. -/
inductive Later (page : Browser) : Browser → Prop
  | now : Later page page
  | step {later : Browser} {event : PageEvent} : Later page later → event.isPlain →
    (later.step event).2.broken = false → Later page (later.step event).2

theorem Settled.later (settled : Settled elements registry none page) {later : Browser}
    (reached : Later page later) : Settled elements registry none later := by
  induction reached with
  | now => exact settled
  | @step before event _ plain unbroken ih =>
      have cleared : Settled elements registry none { before with console := [], nested := [] } :=
        ⟨ih.elements_eq, ih.slot_eq, ih.object_isSome, ih.listeners_eq, ih.clicked_eq⟩
      exact cleared.respond plain unbroken

/-! ### Following one link -/

theorem contains_eq_keys (forest : Forest) (key : Nat) :
    forest.contains key = forest.keys.contains key := by
  rw [Bool.eq_iff_iff, Forest.contains, Forest.find?, List.find?_isSome, List.contains_iff_mem,
    Forest.keys, List.mem_map]
  simp

theorem keys_eq_map_blank (forest : Forest) :
    forest.keys = (forest.elements.map Element.blank).map Element.key := by
  rw [List.map_map]
  rfl

theorem contains_modify (document : Forest) {key other : Nat} {alter : Element → Element}
    (keeps : ∀ element, (alter element).blank = element.blank) :
    (document.modify other alter).contains key = document.contains key := by
  rw [contains_eq_keys, contains_eq_keys, keys_eq_map_blank,
    document.map_elements_modify other keeps, ← keys_eq_map_blank]

/-- A page on which a link was followed: its text is written into the input, the focus moves
there with all that listens to it, and the log tells of it. -/
def fulfilled (page : Browser) (key : Nat) (text : String) (event : LogEvent) : Browser :=
  ((page.write key text).moveFocus key).log event

/-- With nothing that listens, following a link changes its input and the focus only. -/
theorem fulfilled_eq {key : Nat} (unheard : page.Unheard key) (text : String)
    (event : LogEvent) :
    ∃ console, page.fulfilled key text event =
      { page with
        document := page.document.modify key (Element.filled text)
        active := if page.document.contains key then some key else page.active
        console := console } := by
  have unheardWritten : (page.write key text).Unheard key := unheard
  have inside : (page.write key text).document.contains key = page.document.contains key :=
    contains_modify page.document fun _ => rfl
  obtain ⟨console, loggedEq⟩ := log_eq ((page.write key text).moveFocus key) event
  rw [fulfilled, loggedEq, moveFocus_eq unheardWritten, inside]
  exact ⟨console, rfl⟩

/-- A link whose handle is known is followed, or fails before the page is touched. -/
theorem run_follow {running : Running Browser Nat} {link : QuickLink} {key : Nat}
    (resolved : running.session.registry.resolve link.kind link.handle = .ok key) :
    (Session.follow link).run running =
      match Session.requestText running key (.follow link) with
      | .error fault => .error fault running
      | .ok text => .ok text (running.withPage
          (running.page.fulfilled key text (link.filled (Session.stepOf running key)))) := by
  have target : (SessionRequest.follow link).target? = some (link.kind, link.handle) := rfl
  have served : (Session.follow link).run running = _ := Session.run_serve target running
  rw [served, Session.run_fillInput]
  simp only [resolved]
  cases Session.requestText running key (.follow link) with
  | error fault => rfl
  | ok text =>
      have written : Fillable.write running.page key text = .ok (running.page.write key text) :=
        rfl
      have focused : Fillable.focus (running.page.write key text) key =
          .ok ((running.page.write key text).moveFocus key) := rfl
      simp only [written, focused, Session.requestEnd_follow]
      rfl

theorem respond_click {place : Nat} {element : Element} {link : QuickLink}
    (found : page.links[place]? = some element) (acts : element.action = some link)
    (idle : page.clicked = none) :
    (page.respond serve (.click place)).2 =
      { followLink serve { page with clicked := some element.key } link with clicked := none } := by
  rw [respond, found]
  simp only [click, acts, idle, reduceCtorEq, if_false]

/-- A page in the middle of a click on one of its links. -/
def clicking (page : Browser) (link : Element) : Browser :=
  { page with console := [], nested := [], slot := .working, clicked := some link.key }

/-- A click on a link whose session rests and knows its handle: its text is put into its
input, or the fault is logged, or the page breaks. -/
theorem step_click_of_resting {session : Session Nat} (resting : page.slot = .resting session)
    (held : page.object.isSome) (idle : page.clicked = none) {place key : Nat} {element : Element}
    {link : QuickLink} (found : page.links[place]? = some element)
    (acts : element.action = some link)
    (resolved : session.registry.resolve link.kind link.handle = .ok key) :
    (page.step (.click place)).2 =
      match Session.requestText (⟨session, page⟩ : Running Browser Nat) key (.follow link) with
      | .ok text =>
        { ((page.clicking element).fulfilled key text (link.filled
          (Session.stepOf (⟨session, page⟩ : Running Browser Nat) key))).rest session with
            clicked := none }
      | .error fault =>
        if fault = .clockOutOfRange then
          { page.clicking element with clicked := none, broken := true }
        else
          { page with
            console := if page.verbosity.admits .warn then [.logged (.linkFailed fault)] else []
            nested := [] } := by
  let cleared : Browser := { page with console := [], nested := [] }
  let clicked : Browser := { cleared with clicked := some element.key }
  have foundNow : cleared.links[place]? = some element := found
  have stepped : (page.step (.click place)).2 =
      { followLink serve clicked link with clicked := none } :=
    respond_click foundNow acts idle
  have restingNow : clicked.slot = .resting session := resting
  let running : Running Browser Nat := ⟨session, page.clicking element⟩
  -- Neither the console nor what is being clicked plays a part in the text.
  have textEq : Session.requestText running key (.follow link) =
      Session.requestText ⟨session, page⟩ key (.follow link) := by
    cases link <;> rfl
  have resolvedNow : running.session.registry.resolve link.kind link.handle = .ok key := resolved
  have runs := run_follow resolvedNow
  rw [textEq] at runs
  have serves : (Session.serve (.follow link)).run
      ⟨session, { clicked with slot := .working }⟩ = _ := runs
  have restsAgain : (page.clicking element).rest session = clicked := by
    have slotEq : (if page.object.isSome then SessionSlot.resting session else .missing) =
        page.slot := (if_pos held).trans resting.symm
    rw [rest, clicking]
    simp only [slotEq]
    rfl
  rw [stepped, followLink, restingNow]
  simp only [serve, restingNow, serves]
  cases Session.requestText (⟨session, page⟩ : Running Browser Nat) key (.follow link) with
  | ok text => rfl
  | error fault =>
      simp only [restAfter, logFailure, running]
      by_cases breaks : fault = .clockOutOfRange
      · simp only [if_pos breaks]
      · have idleStill : none = page.clicked := idle.symm
        simp only [if_neg breaks, log_eq_withConsole, restsAgain]
        rw [idleStill, ← resting]
        rfl

/-- A click on a link of a settled page does what its session would do now: it fills
the input of the link and moves the focus there, or changes nothing of the document. -/
theorem click_settled (settled : Settled elements registry none page) {place key : Nat}
    {element : Element} {link : QuickLink} (found : page.links[place]? = some element)
    (acts : element.action = some link)
    (resolved : registry.resolve link.kind link.handle = .ok key)
    (inside : page.document.contains key) :
    ∃ session, page.slot = .resting session ∧
      match (Session.follow link).run ⟨session, page⟩ with
      | .ok text _ =>
        (page.step (.click place)).2.document = page.document.modify key (Element.filled text) ∧
          (page.step (.click place)).2.active = some key
      | .error _ _ =>
        (page.step (.click place)).2.document = page.document ∧
          (page.step (.click place)).2.active = page.active := by
  obtain ⟨session, slotEq, rfl⟩ := settled.slot_eq
  refine ⟨session, slotEq, ?_⟩
  let running : Running Browser Nat := ⟨session, page⟩
  have resolvedNow : running.session.registry.resolve link.kind link.handle = .ok key := resolved
  rw [step_click_of_resting slotEq settled.object_isSome settled.clicked_eq found acts resolved,
    run_follow resolvedNow]
  cases Session.requestText running key (.follow link) with
  | error fault =>
      simp only
      split <;> exact ⟨rfl, rfl⟩
  | ok text =>
      have unheard : (page.clicking element).Unheard key :=
        unheard_of_quiet settled.listeners_eq key
      have insideStill : (page.clicking element).document.contains key = true := inside
      obtain ⟨console, fulfilledEq⟩ := fulfilled_eq unheard text
        (link.filled (Session.stepOf running key))
      simp only [running] at fulfilledEq ⊢
      rw [fulfilledEq, if_pos insideStill]
      exact ⟨rfl, rfl⟩

end Browser

end QuickFill
