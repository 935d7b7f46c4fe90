import QuickFill.Proofs.Browser.AtRest

/-!
# Events in the middle of an operation

When the session moves the focus to the input that it has filled, the focus listeners of
the page run.  Whatever they boot, call, read or click finds the session at work and is
turned away, and the operation ends as if nothing had listened.  Only a click on the link
whose click is being dealt with is not even noticed.
-/

namespace QuickFill

namespace PageEvent

/-- Whether an event asks the session for something. -/
def isOperation : PageEvent → Bool
  | .call _ _ | .click _ => true
  | _ => false

/-- Whether an event is a boot, a call, a look at the numbers of the boot, or a click. -/
def isEntry : PageEvent → Bool
  | .boot _ | .install _ | .describe _ | .call _ _ | .click _ => true
  | _ => false

/-- The verbosity after an event on a claimed page: a boot sets it before it is refused. -/
def verbosityAfter (verbosity : Verbosity) : PageEvent → Verbosity
  | .boot choices =>
    match StartSettings.ofChoices choices with
    | .ok start => start.verbosity
    | .error _ => verbosity
  | _ => verbosity

end PageEvent

/-- Whether a line says that a click was passed over. -/
def ConsoleLine.isSkip : ConsoleLine → Bool
  | .logged .linkBusy | .logged (.linkUnbound _) => true
  | _ => false

namespace Browser

/-- What an event is answered while the session of a booted page works. -/
def nestedAnswer (page : Browser) : PageEvent → PageAnswer
  | .boot choices =>
    match StartSettings.ofChoices choices with
    | .ok _ => .exception (.failed .alreadyStarted)
    | .error fault => .exception fault
  | .install _ => .exception (.failed .alreadyStarted)
  | .describe holder =>
    match page.objectOf? holder with
    | some report => .report report
    | none => .noObject
  | .call holder call =>
    match page.objectOf? holder with
    | none => .noObject
    | some _ =>
      match call.request with
      | .error fault => .exception (.failed fault)
      | .ok _ => .exception .busy
  | .click place =>
    match page.links[place]? with
    | none => .nothing
    | some element => .truth (element.action.isSome && page.clicked != some element.key)
  | _ => .done

/-- What is logged of nested events: each click that prevents the default action is
passed over with a warning, if the verbosity at that time admits it. -/
def busyLines (answer : PageEvent → PageAnswer) : Verbosity → List PageEvent → List ConsoleLine
  | _, [] => []
  | verbosity, event :: rest =>
    (if answer event = .truth true ∧ verbosity.admits .warn then [.logged .linkBusy] else []) ++
      busyLines answer (event.verbosityAfter verbosity) rest

/-- The page with nothing that listens to the focus. -/
def quiet (page : Browser) : Browser :=
  { page with listeners := [] }

/-- One page with what another listens to and shows. -/
def echoed (page loud : Browser) : Browser :=
  { page with
    listeners := loud.listeners
    verbosity := loud.verbosity
    console := loud.console
    nested := loud.nested }

/-- What runs when the focus moves to where it is then. -/
def heardOn (page : Browser) : Option Nat → List PageEvent
  | none => []
  | some key =>
    if page.active = some key then []
    else (page.listeners.filter fun listener => listener.1 == key).flatMap Prod.snd

/-- What runs in the middle of an event: all that listens to the element that would get
the focus if nothing listened. -/
def heard (page : Browser) (outer : PageEvent) : List PageEvent :=
  page.heardOn (page.quiet.step outer).2.active

/-- The page in the middle of an event: a link may be being clicked. -/
def during (page : Browser) (outer : PageEvent) : Browser :=
  { page with
    clicked :=
      match outer with
      | .click place => page.links[place]?.map Element.key
      | _ => page.clicked }

/-- Two runs of one event on a page, with and without its listeners: but for what is
listened to and shown, they end in the same page. -/
structure Echo (page quiet loud : Browser) : Prop where
  page_eq : loud = quiet.echoed loud
  listeners_eq : loud.listeners = page.listeners
  verbosity_eq : loud.verbosity =
    (page.heardOn quiet.active).foldl PageEvent.verbosityAfter page.verbosity
  nested_eq : loud.nested = page.nested ++ (page.heardOn quiet.active).map page.nestedAnswer
  console_eq : ∃ lines, loud.console = page.console ++
    busyLines page.nestedAnswer page.verbosity (page.heardOn quiet.active) ++ lines ∧
      ∀ line ∈ lines, line.isSkip = false
  /-- What breaks the page comes before the focus moves. -/
  broken_eq : page.heardOn quiet.active ≠ [] → quiet.broken = page.broken

variable {report : BootReport} {clicked : Option Nat} {page other quietly loud : Browser}

/-! ### Nested events -/

/-- What is answered depends on the links, the object and the link being clicked. -/
theorem nestedAnswer_congr
    (links_eq : other.links.map Element.blank = page.links.map Element.blank)
    (object_eq : other.object = page.object) (clicked_eq : other.clicked = page.clicked) :
    other.nestedAnswer = page.nestedAnswer := by
  have objectOf_eq (holder : Holder) : other.objectOf? holder = page.objectOf? holder := by
    rw [objectOf?, objectOf?, object_eq]
  funext event
  cases event with
  | describe holder => simp only [nestedAnswer, objectOf_eq]
  | call holder call => simp only [nestedAnswer, objectOf_eq]
  | click place =>
      have blank_eq : other.links[place]?.map Element.blank =
          page.links[place]?.map Element.blank := by
        rw [← List.getElem?_map, ← List.getElem?_map, links_eq]
      simp only [nestedAnswer, clicked_eq]
      cases found : page.links[place]? with
      | none =>
          rw [found, Option.map_none, Option.map_eq_none_iff] at blank_eq
          rw [blank_eq]
      | some element =>
          rw [found, Option.map_some, Option.map_eq_some_iff] at blank_eq
          obtain ⟨changed, otherFound, same⟩ := blank_eq
          have action_eq : changed.action = element.action := (congrArg Element.action same :)
          have key_eq : changed.key = element.key := (congrArg Element.key same :)
          rw [otherFound]
          simp only [action_eq, key_eq]
  | _ => rfl

/-- Only a click can prevent a default action, and be passed over with a warning. -/
theorem busyLines_of_not_click {event : PageEvent} (other : ∀ place, event ≠ .click place)
    (verbosity : Verbosity) : busyLines page.nestedAnswer verbosity [event] = [] := by
  have answered : page.nestedAnswer event ≠ .truth true := by
    cases event with
    | click place => exact absurd rfl (other place)
    | boot choices =>
        rw [nestedAnswer]
        split <;> rintro ⟨⟩
    | describe holder =>
        rw [nestedAnswer]
        split <;> rintro ⟨⟩
    | call holder call =>
        rw [nestedAnswer]
        split
        · rintro ⟨⟩
        · split <;> rintro ⟨⟩
    | _ => simp only [nestedAnswer, ne_eq, reduceCtorEq, not_false_eq_true]
  simp only [busyLines, answered, false_and, if_false, List.append_nil]

/-- A nested event changes nothing but the verbosity and what is shown. -/
theorem InWork.respond_entry (works : InWork report clicked page) {event : PageEvent}
    (entry : event.isEntry) :
    page.respond .busy event =
      (page.nestedAnswer event,
        { page with
          verbosity := event.verbosityAfter page.verbosity
          console := page.console ++ busyLines page.nestedAnswer page.verbosity [event] }) := by
  cases event with
  | boot choices =>
      rw [busyLines_of_not_click (by rintro place ⟨⟩), List.append_nil, Browser.respond, bootScript,
        nestedAnswer, PageEvent.verbosityAfter]
      cases StartSettings.ofChoices choices with
      | error fault => rfl
      | ok start =>
          simp only [boot, claim, works.windowed, works.documented, if_true, BootGuard.claim,
            works.claimed]
          rfl
  | install choices =>
      have installed : page.respond .busy (.install choices) = page.meet (.install choices) := rfl
      rw [busyLines_of_not_click (by rintro place ⟨⟩), List.append_nil, installed,
        install_of_claimed works.claimed]
      rfl
  | describe holder =>
      rw [busyLines_of_not_click (by rintro place ⟨⟩), List.append_nil, Browser.respond,
        nestedAnswer]
      cases page.objectOf? holder <;> rfl
  | call holder call =>
      rw [busyLines_of_not_click (by rintro place ⟨⟩), List.append_nil, Browser.respond,
        callSession, nestedAnswer]
      cases page.objectOf? holder with
      | none => rfl
      | some found => cases call.request <;> rfl
  | click place =>
      rw [Browser.respond, busyLines, busyLines, List.append_nil, nestedAnswer]
      cases page.links[place]? with
      | none =>
          simp only [reduceCtorEq, false_and, if_false, List.append_nil]
          rfl
      | some element =>
          simp only [works.click_busy, PageAnswer.truth.injEq]
          rfl
  | _ => cases entry

theorem InWork.respondBusy_eq (works : InWork report clicked page) {event : PageEvent}
    (entry : event.isEntry) :
    page.respondBusy event =
      { page with
        verbosity := event.verbosityAfter page.verbosity
        console := page.console ++ busyLines page.nestedAnswer page.verbosity [event]
        nested := page.nested ++ [page.nestedAnswer event] } := by
  rw [respondBusy, works.respond_entry entry]

/-- So do nested events in a row. -/
theorem InWork.foldl_entries (works : InWork report clicked page) {events : List PageEvent}
    (entries : ∀ event ∈ events, event.isEntry) :
    events.foldl respondBusy page =
      { page with
        verbosity := events.foldl PageEvent.verbosityAfter page.verbosity
        console := page.console ++ busyLines page.nestedAnswer page.verbosity events
        nested := page.nested ++ events.map page.nestedAnswer } := by
  induction events generalizing page with
  | nil => simp only [List.foldl_nil, busyLines, List.map_nil, List.append_nil]
  | cons event rest ih =>
      have first := works.respondBusy_eq (entries event (List.mem_cons_self ..))
      have after : InWork report clicked (page.respondBusy event) := by
        rw [first]
        exact works.congr ⟨rfl, rfl, rfl, rfl, rfl, rfl⟩
      have answers : (page.respondBusy event).nestedAnswer = page.nestedAnswer := by
        rw [first]
        exact nestedAnswer_congr rfl rfl rfl
      have others : ∀ event ∈ rest, event.isEntry :=
        fun event member => entries event (List.mem_cons_of_mem _ member)
      rw [List.foldl_cons, ih after others, answers, first]
      simp only [busyLines, List.append_nil, List.foldl_cons, List.map_cons, List.append_assoc,
        List.cons_append, List.nil_append]

/-! ### One operation, with and without listeners -/

theorem heardOn_active (page : Browser) : page.heardOn page.active = [] := by
  cases active : page.active with
  | none => rfl
  | some key => rw [heardOn, if_pos active]

/-- Where the focus is as it was, nothing was heard. -/
theorem Echo.of_active (page_eq : loud = quietly.echoed page)
    (active_eq : quietly.active = page.active) : Echo page quietly loud := by
  have silent : page.heardOn quietly.active = [] := by rw [active_eq, heardOn_active]
  refine ⟨?_, ?_, ?_, ?_, ⟨[], ?_, List.forall_mem_nil _⟩,
    fun heard => absurd silent heard⟩
  · rw [page_eq]
    rfl
  · rw [page_eq]
    rfl
  · rw [page_eq, silent]
    rfl
  · rw [page_eq, silent, List.map_nil, List.append_nil]
    rfl
  · rw [page_eq, silent, busyLines, List.append_nil, List.append_nil]
    rfl

/-- A change that both runs make, and that has nothing to do with what is listened to and
shown. -/
theorem Echo.alter (echo : Echo page quietly loud) (alter : Browser → Browser)
    (apart : ∀ one another, alter (one.echoed another) = (alter one).echoed another)
    (shown : ∀ one another : Browser, one.echoed (alter another) = one.echoed another)
    (active_eq : (alter quietly).active = quietly.active)
    (broken_eq : page.heardOn quietly.active ≠ [] → (alter quietly).broken = quietly.broken) :
    Echo page (alter quietly) (alter loud) := by
  have same : (alter loud).listeners = loud.listeners ∧ (alter loud).verbosity = loud.verbosity ∧
      (alter loud).nested = loud.nested ∧ (alter loud).console = loud.console :=
    have equal := shown loud loud
    ⟨(congrArg Browser.listeners equal :), (congrArg Browser.verbosity equal :),
      (congrArg Browser.nested equal :), (congrArg Browser.console equal :)⟩
  obtain ⟨listeners_eq, verbosity_eq, nested_eq, console_eq⟩ := same
  refine ⟨?_, listeners_eq.trans echo.listeners_eq, ?_, ?_, ?_, ?_⟩
  · rw [shown, ← apart, ← echo.page_eq]
  · rw [active_eq, verbosity_eq, echo.verbosity_eq]
  · rw [active_eq, nested_eq, echo.nested_eq]
  · rw [active_eq, console_eq]
    exact echo.console_eq
  · rw [active_eq]
    exact fun heard => (broken_eq heard).trans (echo.broken_eq heard)

theorem Echo.log (echo : Echo page quietly loud) {event : LogEvent}
    (plain : (ConsoleLine.logged event).isSkip = false) :
    Echo page (quietly.log event) (loud.log event) := by
  obtain ⟨lines, console_eq, plains⟩ := echo.console_eq
  rw [log_eq_withConsole quietly, log_eq_withConsole loud]
  refine ⟨?_, echo.listeners_eq, echo.verbosity_eq, echo.nested_eq, ?_, echo.broken_eq⟩
  · exact congrArg
      (fun changed => changed.withConsole (loud.console ++
        if loud.verbosity.admits event.level then [.logged event] else [])) echo.page_eq
  · refine ⟨lines ++ if loud.verbosity.admits event.level then [.logged event] else [], ?_, ?_⟩
    · exact (congrArg (· ++ _) console_eq).trans (List.append_assoc ..)
    · intro line member
      rcases List.mem_append.mp member with before | after
      · exact plains line before
      · split at after
        · rw [List.mem_singleton.mp after]
          exact plain
        · cases after

theorem Echo.logFailure (echo : Echo page quietly loud) (fault : Fault) :
    Echo page (quietly.logFailure fault) (loud.logFailure fault) := by
  rw [Browser.logFailure, Browser.logFailure]
  split
  · exact echo
  · exact echo.log rfl

/-- Moving the focus to an input that has been filled. -/
theorem InWork.echo_moveFocus (works : InWork report clicked page) (key : Nat) (text : String)
    (entries : ∀ event ∈ page.heardOn ((page.quiet.write key text).moveFocus key).active,
      event.isEntry) :
    Echo page ((page.quiet.write key text).moveFocus key)
      ((page.write key text).moveFocus key) := by
  let filled := page.write key text
  have quietEq : (page.quiet.write key text).moveFocus key =
      { filled.quiet with
        active := if filled.document.contains key then some key else page.active } :=
    moveFocus_eq (unheard_of_quiet rfl key)
  rw [quietEq] at entries ⊢
  change Echo page _ (filled.moveFocus key)
  rw [moveFocus]
  by_cases moves : filled.document.contains key ∧ filled.active ≠ some key
  · rw [if_pos moves]
    obtain ⟨inside, elsewhere⟩ := moves
    have elsewhere : page.active ≠ some key := elsewhere
    simp only [inside, if_true] at entries ⊢
    have heardEq : (filled.listeners.filter fun listener => listener.1 == key).flatMap Prod.snd =
        page.heardOn (some key) := by
      rw [heardOn, if_neg elsewhere]
      rfl
    have focused : InWork report clicked { filled with active := some key } :=
      works.congr ⟨rfl, rfl, rfl, rfl, rfl, rfl⟩
    have answers : ({ filled with active := some key } : Browser).nestedAnswer =
        page.nestedAnswer := by
      refine nestedAnswer_congr ?_ rfl rfl
      have elements_eq : filled.document.elements.map Element.blank =
          page.document.elements.map Element.blank :=
        Forest.map_elements_modify _ key fun _ => rfl
      have links_eq (browser : Browser) : browser.links.map Element.blank =
          (browser.document.elements.map Element.blank).filter fun element =>
            element.tag == "a" := by
        rw [links, List.filter_map]
        rfl
      rw [links_eq, links_eq]
      exact congrArg _ elements_eq
    rw [heardEq, focused.foldl_entries entries, answers]
    refine ⟨rfl, rfl, rfl, rfl, ⟨[], ?_, List.forall_mem_nil _⟩, fun _ => rfl⟩
    rw [List.append_nil]
    rfl
  · -- The input has the focus already, or is gone from the document.
    rw [if_neg moves]
    have active_eq : (if filled.document.contains key then some key else page.active) =
        page.active := by
      split
      · next inside =>
        by_contra differs
        exact moves ⟨inside, fun same => differs same.symm⟩
      · rfl
    exact Echo.of_active (by rw [active_eq]; rfl) active_eq

/-- Outcomes of one operation, with and without listeners. -/
inductive Alike {α : Type} (page : Browser) :
    EStateM.Result Fault (Running Browser Nat) α →
      EStateM.Result Fault (Running Browser Nat) α → Prop
  | answered (value : α) (session : Session Nat) {quietly loud : Browser} :
    Echo page quietly loud → Alike page (.ok value ⟨session, quietly⟩) (.ok value ⟨session, loud⟩)
  | failed {fault : Fault} (session : Session Nat) {quietly loud : Browser} :
    Echo page quietly loud → (page.heardOn quietly.active ≠ [] → fault ≠ .clockOutOfRange) →
      Alike page (.error fault ⟨session, quietly⟩) (.error fault ⟨session, loud⟩)

theorem Echo.hide (echo : Echo page quietly loud) (session : Session Nat) (id : String) :
    Alike page
      ((Session.change fun browser => Fillable.hide (ι := Nat) browser id).run
        (⟨session, quietly⟩ : Running Browser Nat))
      ((Session.change fun browser => Fillable.hide (ι := Nat) browser id).run
        (⟨session, loud⟩ : Running Browser Nat)) := by
  have document_eq : loud.document = quietly.document := by
    rw [echo.page_eq]
    rfl
  have hideEq (browser : Browser) : Fillable.hide (ι := Nat) browser id = browser.hide id := rfl
  simp only [Session.run_change, hideEq, Browser.hide, document_eq]
  cases quietly.document.withId? id with
  | none => exact .failed session echo fun _ => by rintro ⟨⟩
  | some element =>
      simp only
      by_cases native : element.native = true
      · rw [if_pos native, if_pos native]
        let hide (browser : Browser) : Browser :=
          { browser with
            document := quietly.document.modify element.key fun element =>
              { element with hidden := true } }
        have hidden : Echo page (hide quietly) (hide loud) :=
          echo.alter hide (fun _ _ => rfl) (fun _ _ => rfl) rfl fun _ => rfl
        exact .answered () session hidden
      · rw [if_neg native, if_neg native]
        exact .failed session echo fun _ => by rintro ⟨⟩

/-- What follows the move of the focus. -/
theorem Echo.requestEnd (echo : Echo page quietly loud) (found : Running Browser Nat) (key : Nat)
    (request : SessionRequest) (session : Session Nat) :
    Alike page ((Session.requestEnd found key request).run ⟨session, quietly⟩)
      ((Session.requestEnd found key request).run ⟨session, loud⟩) := by
  have logs {quietly loud : Browser} (echo : Echo page quietly loud) {event : LogEvent}
      (plain : (ConsoleLine.logged event).isSkip = false) :
      Alike page ((Session.log event).run (⟨session, quietly⟩ : Running Browser Nat))
        ((Session.log event).run (⟨session, loud⟩ : Running Browser Nat)) :=
    .answered () session (echo.log plain)
  cases request with
  | clock handle value template => exact logs echo rfl
  | today handle days => exact logs echo rfl
  | boxId handle => exact .answered () session echo
  | follow link => cases link <;> exact logs echo rfl
  | pick handle year month day =>
      have hidden := echo.hide session (found.session.settings.boxId handle)
      simp only [Session.requestEnd, EStateM.run_bind]
      generalize (Session.change _).run (⟨session, quietly⟩ : Running Browser Nat) = outcome,
        (Session.change _).run (⟨session, loud⟩ : Running Browser Nat) = otherOutcome at hidden ⊢
      cases hidden with
      | answered value session echo => exact .answered () session (echo.log rfl)
      | failed session echo unbroken => exact .failed session echo unbroken

/-- What follows the move of the focus leaves the focus where it is. -/
theorem keeps_active_requestEnd (active : Option Nat) (found : Running Browser Nat) (key : Nat)
    (request : SessionRequest) :
    Session.Keeps (fun running : Running Browser Nat => running.page.active = active)
      (Session.requestEnd found key request) := by
  refine Session.Keeps.requestEnd (fun {running} event before => ?_)
    (fun before hidden => ?_) found key request
  · have recorded : (running.logged event).page = running.page.log event := rfl
    rw [recorded, log_eq_withConsole]
    exact before
  · obtain ⟨hiddenKey, rfl⟩ := hide_eq_ok hidden
    exact before

theorem requestText_quiet (page : Browser) (session : Session Nat) (key : Nat)
    (request : SessionRequest) :
    Session.requestText (⟨session, page.quiet⟩ : Running Browser Nat) key request =
      Session.requestText ⟨session, page⟩ key request := by
  cases request with
  | follow link => cases link <;> rfl
  | _ => rfl

theorem requestEnd_quiet (page : Browser) (session : Session Nat) (key : Nat)
    (request : SessionRequest) :
    Session.requestEnd (⟨session, page.quiet⟩ : Running Browser Nat) key request =
      Session.requestEnd ⟨session, page⟩ key request := by
  cases request with
  | follow link => cases link <;> rfl
  | _ => rfl

/-- An input is focused, and its request comes to an end, alike with and without listeners. -/
theorem InWork.end_alike (works : InWork report clicked page) (request : SessionRequest)
    (session : Session Nat) (key : Nat) (text : String)
    (entries : ∀ event ∈ page.heardOn
      (Session.final (Session.requestEnd ⟨session, page⟩ key request)
        ⟨session, (page.quiet.write key text).moveFocus key⟩).page.active, event.isEntry) :
    Alike page
      ((Session.requestEnd ⟨session, page⟩ key request).run
        ⟨session, (page.quiet.write key text).moveFocus key⟩)
      ((Session.requestEnd ⟨session, page⟩ key request).run
        ⟨session, (page.write key text).moveFocus key⟩) := by
  have kept := keeps_active_requestEnd ((page.quiet.write key text).moveFocus key).active
    ⟨session, page⟩ key request ⟨session, (page.quiet.write key text).moveFocus key⟩ rfl
  rw [kept] at entries
  exact (works.echo_moveFocus key text entries).requestEnd ⟨session, page⟩ key request session

/-- A request is served alike with and without listeners. -/
theorem InWork.serve_alike (works : InWork report clicked page) (request : SessionRequest)
    (session : Session Nat)
    (entries : ∀ event ∈ page.heardOn
      (Session.final (Session.serve request) ⟨session, page.quiet⟩).page.active, event.isEntry) :
    Alike page ((Session.serve request).run ⟨session, page.quiet⟩)
      ((Session.serve request).run ⟨session, page⟩) := by
  have start : Echo page page.quiet page := Echo.of_active rfl rfl
  have silent : page.heardOn page.quiet.active = [] := heardOn_active page
  cases target : request.target? with
  | none =>
      cases request <;> cases target
      exact .answered _ session start
  | some found =>
      obtain ⟨kind, handle⟩ := found
      rw [Session.final, Session.run_serve target, Session.run_fillInput] at entries
      rw [Session.run_serve target, Session.run_serve target, Session.run_fillInput,
        Session.run_fillInput]
      cases resolved : session.registry.resolve kind handle with
      | error fault =>
          have logged : (page.quiet.log (.handleUnknown kind handle)).active = page.active := by
            rw [log_eq_withConsole]
            rfl
          refine .failed session (start.log rfl) fun heard => absurd ?_ heard
          exact (congrArg page.heardOn logged).trans silent
      | ok key =>
          simp only [resolved, requestText_quiet, requestEnd_quiet] at entries ⊢
          cases text? : Session.requestText (⟨session, page⟩ : Running Browser Nat) key request with
          | error fault => exact .failed session start fun heard => absurd silent heard
          | ok text =>
              have written (browser : Browser) :
                  Fillable.write browser key text = .ok (browser.write key text) := rfl
              have focused (browser : Browser) :
                  Fillable.focus browser key = .ok (browser.moveFocus key) := rfl
              simp only [text?, written, focused, Running.withPage] at entries ⊢
              have ended := works.end_alike request session key text (by
                rw [Session.final]
                cases outcome : (Session.requestEnd (⟨session, page⟩ : Running Browser Nat) key
                  request).run ⟨session, (page.quiet.write key text).moveFocus key⟩ <;>
                    simpa only [outcome] using entries)
              generalize (Session.requestEnd (⟨session, page⟩ : Running Browser Nat) key
                  request).run ⟨session, (page.quiet.write key text).moveFocus key⟩ = outcome,
                (Session.requestEnd (⟨session, page⟩ : Running Browser Nat) key
                  request).run ⟨session, (page.write key text).moveFocus key⟩ = otherOutcome
                at ended ⊢
              cases ended with
              | answered value session echo => exact .answered text session echo
              | failed session echo unbroken => exact .failed session echo unbroken

/-- The slot of the session plays no part in what is heard and answered. -/
theorem Echo.ofSlot {slot : SessionSlot} (echo : Echo { page with slot := slot } quietly loud) :
    Echo page quietly loud :=
  ⟨echo.page_eq, echo.listeners_eq, echo.verbosity_eq, echo.nested_eq, echo.console_eq,
    echo.broken_eq⟩

theorem active_serve {session : Session Nat} (resting : page.slot = .resting session)
    (request : SessionRequest) :
    (page.serve request).2.active = (Session.final (Session.serve request)
      ⟨session, { page with slot := .working }⟩).page.active := by
  rcases serve_eq_final resting request with rested | breaks
  · rw [rested]
    rfl
  · rw [breaks]

/-- The session puts itself back to rest alike. -/
theorem AtRest.serve_echo (rests : AtRest report clicked page) (request : SessionRequest)
    (entries : ∀ event ∈ page.heardOn (page.quiet.serve request).2.active, event.isEntry) :
    (page.serve request).1 = (page.quiet.serve request).1 ∧
      Echo page (page.quiet.serve request).2 (page.serve request).2 := by
  rcases rests.held with ⟨session, holder, resting, -⟩ | ⟨missing, -⟩
  · have quietResting : page.quiet.slot = .resting session := resting
    rw [active_serve quietResting] at entries
    have alike := rests.work.serve_alike request session entries
    rw [Browser.serve, Browser.serve, quietResting, resting]
    simp only
    change Alike _ ((Session.serve request).run ⟨session, { page.quiet with slot := .working }⟩) _
      at alike
    generalize (Session.serve request).run ⟨session, { page.quiet with slot := .working }⟩ =
        outcome, (Session.serve request).run ⟨session, { page with slot := .working }⟩ =
        otherOutcome at alike ⊢
    cases alike with
    | answered text after echo =>
        exact ⟨rfl, echo.ofSlot.alter (·.rest after) (fun _ _ => rfl) (fun _ _ => rfl) rfl
          fun _ => rfl⟩
    | @failed fault after quietly loud echo unbroken =>
        refine ⟨rfl, ?_⟩
        by_cases breaks : fault = .clockOutOfRange
        · simp only [restAfter, if_pos breaks]
          exact echo.ofSlot.alter (fun browser => { browser with broken := true })
            (fun _ _ => rfl) (fun _ _ => rfl) rfl fun heard => absurd breaks (unbroken heard)
        · simp only [restAfter, if_neg breaks]
          exact echo.ofSlot.alter (·.rest after) (fun _ _ => rfl) (fun _ _ => rfl) rfl
            fun _ => rfl
  · have quietMissing : page.quiet.slot = .missing := missing
    rw [Browser.serve, Browser.serve, quietMissing, missing]
    exact ⟨rfl, Echo.of_active rfl rfl⟩

theorem serve_ne_busy {session : Session Nat} (resting : page.slot = .resting session)
    (request : SessionRequest) : (page.serve request).1 ≠ .error .busy := by
  rw [Browser.serve, resting]
  simp only
  cases (Session.serve request).run ⟨session, { page with slot := .working }⟩ <;>
    rintro ⟨⟩

theorem AtRest.followLink_echo (rests : AtRest report clicked page) (link : QuickLink)
    (entries : ∀ event ∈ page.heardOn (Browser.followLink Browser.serve page.quiet link).active,
      event.isEntry) :
    Echo page (Browser.followLink Browser.serve page.quiet link)
      (Browser.followLink Browser.serve page link) := by
  rcases rests.held with ⟨session, holder, resting, -⟩ | ⟨missing, -⟩
  · have quietResting : page.quiet.slot = .resting session := resting
    obtain ⟨console, followed⟩ := followLink_eq quietResting link
    rw [followed] at entries
    have alike := rests.serve_echo (.follow link) entries
    have free := serve_ne_busy quietResting (.follow link)
    rw [Browser.followLink, Browser.followLink, quietResting, resting]
    simp only
    generalize page.quiet.serve (.follow link) = quietServed,
      page.serve (.follow link) = served at alike free ⊢
    obtain ⟨outcome, quietly⟩ := quietServed
    obtain ⟨otherOutcome, loud⟩ := served
    obtain ⟨same, echo⟩ := alike
    obtain rfl : otherOutcome = outcome := same
    cases otherOutcome with
    | ok text => exact echo
    | error fault =>
        cases fault with
        | failed cause => exact echo.logFailure cause
        | busy => exact absurd rfl free
        | _ => exact echo
  · have quietMissing : page.quiet.slot = .missing := missing
    rw [Browser.followLink, Browser.followLink, quietMissing, missing]
    exact Echo.of_active rfl rfl

theorem AtRest.click_echo (rests : AtRest report none page) (element : Element)
    (entries : ∀ event ∈ page.heardOn (page.quiet.click Browser.serve element).2.active,
      event.isEntry) :
    (page.click Browser.serve element).1 = (page.quiet.click Browser.serve element).1 ∧
      Echo { page with clicked := some element.key } (page.quiet.click Browser.serve element).2
        (page.click Browser.serve element).2 := by
  have idle : page.clicked ≠ some element.key := by
    rw [rests.clicked_eq]
    rintro ⟨⟩
  have quietIdle : page.quiet.clicked ≠ some element.key := idle
  rw [Browser.click] at entries
  rw [Browser.click, Browser.click]
  cases acts : element.action with
  | none => exact ⟨rfl, Echo.of_active rfl rfl⟩
  | some link =>
      simp only [acts, if_neg quietIdle] at entries
      simp only [if_neg idle, if_neg quietIdle]
      have followed := (rests.withClicked (some element.key)).followLink_echo link entries
      exact ⟨trivial, followed.alter (fun browser => { browser with clicked := page.clicked })
        (fun _ _ => rfl) (fun _ _ => rfl) rfl fun _ => rfl⟩

/-- The listeners of a page at rest change neither the answer to an operation nor the page
that it leaves. -/
theorem AtRest.respond_echo (rests : AtRest report none page) {outer : PageEvent}
    (operates : outer.isOperation)
    (entries : ∀ event ∈ page.heardOn (page.quiet.respond Browser.serve outer).2.active,
      event.isEntry) :
    (page.respond Browser.serve outer).1 = (page.quiet.respond Browser.serve outer).1 ∧
      Echo (page.during outer) (page.quiet.respond Browser.serve outer).2
        (page.respond Browser.serve outer).2 := by
  cases outer with
  | call holder call =>
      have objectEq : page.quiet.objectOf? holder = page.objectOf? holder := rfl
      rw [Browser.respond, callSession] at entries
      rw [Browser.respond, Browser.respond, callSession, callSession]
      rw [objectEq] at entries ⊢
      cases held : page.objectOf? holder with
      | none => exact ⟨rfl, Echo.of_active rfl rfl⟩
      | some found =>
          cases requested : call.request with
          | error fault => exact ⟨rfl, Echo.of_active rfl rfl⟩
          | ok request =>
              simp only [held, requested] at entries
              have served := rests.serve_echo request entries
              exact ⟨congrArg (answerOf .text) served.1, served.2⟩
  | click place =>
      have linksEq : page.quiet.links = page.links := rfl
      rw [Browser.respond, linksEq] at entries
      rw [Browser.respond, Browser.respond, linksEq, during]
      cases found : page.links[place]? with
      | none => exact ⟨rfl, Echo.of_active rfl rfl⟩
      | some element =>
          simp only [found] at entries
          have clicked := rests.click_echo element entries
          exact ⟨congrArg PageAnswer.truth clicked.1, clicked.2⟩
  | _ => cases operates

/-! ### The operation as a whole -/

theorem eq_linkBusy_of_mem {answer : PageEvent → PageAnswer} {verbosity : Verbosity}
    {events : List PageEvent} {line : ConsoleLine}
    (member : line ∈ busyLines answer verbosity events) : line = .logged .linkBusy := by
  induction events generalizing verbosity with
  | nil => cases member
  | cons event rest ih =>
      rw [busyLines, List.mem_append] at member
      rcases member with here | later
      · split at here
        · exact List.mem_singleton.mp here
        · cases here
      · exact ih later

theorem step_seen (page : Browser) (event : PageEvent) :
    (page.step event).1 =
      { answer := (page.step event).1.answer
        active := (page.step event).2.activeId?
        values := (page.step event).2.inputs.map Element.value
        console := (page.step event).2.console
        nested := (page.step event).2.nested } :=
  rfl

/-- What the listeners that run in the middle of an operation come to. -/
structure Undisturbed (report : BootReport) (page : Browser) (outer : PageEvent) : Prop where
  /-- The answer, the focus and all values are those of the page without listeners. -/
  seen_eq : (page.step outer).1 =
    { (page.quiet.step outer).1 with
      console := (page.step outer).1.console
      nested := (page.step outer).1.nested }
  /-- So is the rest of the page, its document, its session and its object. -/
  page_eq : (page.step outer).2 = (page.quiet.step outer).2.echoed (page.step outer).2
  listeners_eq : (page.step outer).2.listeners = page.listeners
  verbosity_eq : (page.step outer).2.verbosity =
    (page.heard outer).foldl PageEvent.verbosityAfter page.verbosity
  nested_eq : (page.step outer).1.nested =
    (page.heard outer).map (page.during outer).nestedAnswer
  console_eq : ∃ lines, (page.step outer).1.console =
    busyLines (page.during outer).nestedAnswer page.verbosity (page.heard outer) ++ lines ∧
      ∀ line ∈ lines, line.isSkip = false
  bound : ∀ handle, .logged (.linkUnbound handle) ∉ (page.step outer).1.console
  /-- An operation in which anything runs does not break the page. -/
  unbroken : page.heard outer ≠ [] → (page.step outer).2.broken = page.broken
  /-- The numbers that are read are those of the boot. -/
  reports : ∀ holder found, page.objectOf? holder = some found → found = report

/-- Whatever enters the library in the middle of an operation on a booted page leaves that
operation alone.  Every nested event is turned away: each boot as a second one, or for its
settings, each call as one that finds the session busy, or for its hour, and each click with
a warning, but for the clicks on the very link whose click is being dealt with, which are
not noticed. -/
theorem entries_leave_operation {first booted : Browser} (idle : first.clicked = none)
    {start : StartSettings} {holder : Holder}
    (boots : first.boot start holder = (.ok report, booted)) (reached : After booted page)
    {outer : PageEvent} (operates : outer.isOperation)
    (entries : ∀ event ∈ page.heard outer, event.isEntry) : Undisturbed report page outer := by
  have rests := (atRest_of_boot idle boots).after reached
  have cleared : AtRest report none { page with console := [], nested := [] } :=
    rests.congr ⟨rfl, rfl, rfl, rfl, rfl, rfl⟩
  let idlePage : Browser := { page with console := [], nested := [] }
  obtain ⟨answer_eq, echo⟩ :
      (page.step outer).1.answer = (page.quiet.step outer).1.answer ∧
        Echo (idlePage.during outer) (page.quiet.step outer).2 (page.step outer).2 :=
    cleared.respond_echo operates entries
  have numbers (owner : Holder) (found : BootReport)
      (object : page.objectOf? owner = some found) : found = report := by
    have ended := rests.work.report_eq
    rw [objectOf?] at object
    split at object
    · next other total held =>
      split at object
      · obtain rfl := Option.some.inj object
        exact ended _ _ held
      · cases object
    · cases object
  obtain ⟨lines, console_eq, plain⟩ : ∃ lines, (page.step outer).1.console =
      busyLines (page.during outer).nestedAnswer page.verbosity (page.heard outer) ++ lines ∧
        ∀ line ∈ lines, line.isSkip = false := echo.console_eq
  refine ⟨?_, echo.page_eq, echo.listeners_eq, echo.verbosity_eq, echo.nested_eq,
    ⟨lines, console_eq, plain⟩, ?_, ?_, numbers⟩
  · have active_eq := congrArg activeId? echo.page_eq
    have values_eq := congrArg (fun browser => browser.inputs.map Element.value) echo.page_eq
    rw [step_seen, step_seen, PageStep.mk.injEq]
    exact ⟨answer_eq, active_eq, values_eq, rfl, rfl⟩
  · intro handle member
    rw [console_eq, List.mem_append] at member
    rcases member with busy | other
    · cases eq_linkBusy_of_mem busy
    · cases plain _ other
  · intro heard
    have broken_eq := congrArg broken echo.page_eq
    exact broken_eq.trans (echo.broken_eq heard)

/-- A document with a day and an hour that scripts can find. -/
def agendaForm : Forest :=
  let day : Element :=
    { key := 0, tag := "input",
      attributes := [("id", "day"), ("type", "date"), ("class", "vDateField")] }
  let hour : Element :=
    { key := 0, tag := "input",
      attributes := [("id", "hour"), ("type", "time"), ("class", "vTimeField")] }
  .element { key := 0, tag := "form" } (.element day .nil (.element hour .nil .nil)) .nil

/-- A page that was opened with that document. -/
def agenda : Browser :=
  ofDocument agendaForm ⟨none, none⟩

/-- The agenda when it was booted and events were made to listen to the focus of its day. -/
def agendaHearing (events : List PageEvent) : Browser :=
  ((agenda.boot {} .script).2.step (.listen "day" events)).2

def interruptions : List PageEvent :=
  [.boot none, .describe .script, .call .script (.today 0 1), .click 0, .click 1]

/-- A click on the link of the day runs what listens to the day, and is not disturbed. -/
theorem entries_leave_operation_agenda :
    (agenda.boot {} .script).1 = .ok ⟨0, ⟨2, 1, 1, 0⟩⟩ ∧
      ((agendaHearing interruptions).heard (.click 0)).length = 5 ∧
      Undisturbed ⟨0, ⟨2, 1, 1, 0⟩⟩ (agendaHearing interruptions) (.click 0) := by
  have succeeds : (agenda.boot {} .script).1 = .ok ⟨0, ⟨2, 1, 1, 0⟩⟩ := by decide +kernel
  have boots : agenda.boot {} .script =
      (.ok ⟨0, ⟨2, 1, 1, 0⟩⟩, (agenda.boot {} .script).2) := Prod.ext succeeds rfl
  have reached : After (agenda.boot {} .script).2 (agendaHearing interruptions) :=
    .step (.listen "day" interruptions) .now (by decide +kernel)
  have entries : ((agendaHearing interruptions).heard (.click 0)).all PageEvent.isEntry := by
    decide +kernel
  refine ⟨succeeds, by decide +kernel, ?_⟩
  exact entries_leave_operation rfl boots reached rfl (List.all_eq_true.mp entries)

/-- The link of the day, clicked again in the middle of a click on it, does not prevent the
default action, and no warning is logged that a click was passed over. -/
theorem own_link_unnoticed :
    (agenda.boot {} .script).1 = .ok ⟨0, ⟨2, 1, 1, 0⟩⟩ ∧
      (agendaHearing [.click 0]).verbosity.admits .warn = true ∧
      ((agendaHearing [.click 0]).step (.click 0)).1.answer = .truth true ∧
      ((agendaHearing [.click 0]).step (.click 0)).1.nested = [.truth false] ∧
      .logged .linkBusy ∉ ((agendaHearing [.click 0]).step (.click 0)).1.console := by
  decide +kernel

end Browser

end QuickFill
