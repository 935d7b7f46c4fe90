import QuickFill.Browser.Run
import QuickFill.Proofs.Browser.Attempt
import QuickFill.Proofs.Browser.Language
import QuickFill.Proofs.Session.Simulation

/-!
# Pages without useless functions

The functions of a page that are of no use can be taken away from it, those among its
properties as well as those that scripts put there later.  The page that is left does
everything as before.
-/

namespace QuickFill

namespace LanguageService

open Classical in
/-- A function, unless it is of no use. -/
noncomputable def mend (service : LanguageService) (function : Option PageFunction) :
    Option PageFunction :=
  if service.Unusable function then none else function

theorem alike_mend (service : LanguageService) (function : Option PageFunction) :
    service.Alike function (service.mend function) := by
  rw [mend]
  split
  · next unusable => exact Or.inr ⟨unusable, service.unusable_none⟩
  · exact Or.inl rfl

theorem mend_eq_of_alike {service : LanguageService} {function other : Option PageFunction}
    (alike : service.Alike function other) : service.mend other = service.mend function := by
  rcases alike with rfl | ⟨unusable, otherUnusable⟩
  · rfl
  · rw [mend, mend, if_pos unusable, if_pos otherUnusable]

/-- What a property of the window is set to, unless it is of no use there. -/
noncomputable def mendNamed (name : String) (function : Option PageFunction) :
    Option PageFunction :=
  match named? name with
  | some service => service.mend function
  | none => function

end LanguageService

/-- The functions of a page without those that are of no use. -/
noncomputable def PageFunctions.mended (functions : PageFunctions) : PageFunctions where
  gettext := LanguageService.gettext.mend functions.gettext
  ngettext := LanguageService.ngettext.mend functions.ngettext
  interpolate := LanguageService.interpolate.mend functions.interpolate
  dateTemplates := LanguageService.dateTemplates.mend functions.dateTemplates

theorem PageFunctions.translator_mended (functions : PageFunctions) :
    functions.mended.translator = functions.translator := by
  apply translator_eq
  intro service
  cases service <;> exact LanguageService.alike_mend _ _

theorem PageFunctions.define_mended (functions : PageFunctions) (name : String)
    (function : Option PageFunction) :
    functions.mended.define name (LanguageService.mendNamed name function) =
      (functions.define name function).mended := by
  by_cases isGettext : name = "gettext"
  · subst isGettext
    rfl
  by_cases isNgettext : name = "ngettext"
  · subst isNgettext
    rfl
  by_cases isInterpolate : name = "interpolate"
  · subst isInterpolate
    rfl
  by_cases isTemplates : name = "get_format"
  · subst isTemplates
    rfl
  · simp [define, isGettext, isNgettext, isInterpolate, isTemplates]

mutual

/-- An event that sets no property to a function that is of no use there, nor has that done
later. -/
noncomputable def PageEvent.mended : PageEvent → PageEvent
  | .setGlobal name function => .setGlobal name (LanguageService.mendNamed name function)
  | .listen id events => .listen id (mendedAll events)
  | event => event

noncomputable def PageEvent.mendedAll : List PageEvent → List PageEvent
  | [] => []
  | event :: rest => event.mended :: mendedAll rest

end

/-- Whether an event sets a property to a function, or may have that done later. -/
def PageEvent.setsFunctions : PageEvent → Bool
  | .setGlobal _ _ | .listen _ _ => true
  | _ => false

theorem PageEvent.mended_of_plain {event : PageEvent} (plain : event.setsFunctions = false) :
    event.mended = event := by
  cases event with
  | setGlobal name function => cases plain
  | listen id events => cases plain
  | _ => rfl

theorem PageEvent.mendedAll_eq_map (events : List PageEvent) :
    mendedAll events = events.map mended := by
  induction events with
  | nil => rw [mendedAll]; rfl
  | cons event rest ih => rw [mendedAll, ih]; rfl

noncomputable def mendedListeners (listeners : List (Nat × List PageEvent)) :
    List (Nat × List PageEvent) :=
  listeners.map fun listener => (listener.1, PageEvent.mendedAll listener.2)

namespace Browser

/-- A page without useless functions, now and later. -/
noncomputable def mended (page : Browser) : Browser :=
  { page with
    functions := page.functions.mended
    listeners := mendedListeners page.listeners }

variable (page : Browser)

theorem translator_mended :
    Environment.translator page.mended = Environment.translator page :=
  page.functions.translator_mended

theorem log_mended (event : LogEvent) : page.mended.log event = (page.log event).mended := by
  rw [log, log]
  have verbosityEq : page.mended.verbosity = page.verbosity := rfl
  rw [verbosityEq]
  split <;> rfl

theorem logFailure_mended (fault : Fault) :
    page.mended.logFailure fault = (page.logFailure fault).mended := by
  rw [logFailure, logFailure]
  split
  · rfl
  · exact page.log_mended _

theorem restAfter_mended (session : Session Nat) (fault : Fault) :
    page.mended.restAfter session fault = (page.restAfter session fault).mended := by
  rw [restAfter, restAfter]
  split <;> rfl

theorem insertShortcut_mended (key : Nat) (shortcut : Shortcut) :
    page.mended.insertShortcut key shortcut = (page.insertShortcut key shortcut).map mended := by
  have homeEq : page.mended.homeOf key = page.homeOf key := rfl
  rw [insertShortcut, insertShortcut, homeEq]
  cases page.homeOf key with
  | error cause => rfl
  | ok home => cases home <;> rfl

theorem appendNote_mended (key : Nat) (note : Note) :
    page.mended.appendNote key note = (page.appendNote key note).map mended := by
  have homeEq : page.mended.homeOf key = page.homeOf key := rfl
  rw [appendNote, appendNote, homeEq]
  cases page.homeOf key with
  | error cause => rfl
  | ok home =>
      cases ClassName.joined note.classes with
      | error cause => simp only; rfl
      | ok classAttribute =>
          simp only
          cases home <;> rfl

theorem hide_mended (id : String) : page.mended.hide id = (page.hide id).map mended := by
  have found : page.mended.document.withId? id = page.document.withId? id := rfl
  rw [hide, hide, found]
  cases page.document.withId? id with
  | none => rfl
  | some element =>
      simp only
      split <;> rfl

/-! ### Sessions -/

/-- Sessions on a page and on the page that is left of it without useless functions. -/
noncomputable def mendedLikeness (settings : Settings) : Likeness Browser Browser Nat Nat where
  settings := settings
  pages page other := other = page.mended
  inputs := Eq
  causes := Eq

theorem changes_mended (settings : Settings) (outcome : Except PageFault Browser) :
    (mendedLikeness settings).Changes outcome (outcome.map mended) := by
  cases outcome with
  | ok page => exact .made rfl
  | error cause => exact .refused rfl

/-- Whatever the way is in which inputs are filled, sessions act alike if that way does. -/
theorem bridge_mended (settings : Settings) (filling : Fillable Browser Nat)
    (step?_eq : ∀ page key, filling.step? (mended page) key = filling.step? page key)
    (write_eq : ∀ page key text,
      filling.write (mended page) key text = (filling.write page key text).map mended)
    (focus_eq : ∀ page key,
      filling.focus (mended page) key = (filling.focus page key).map mended)
    (hide_eq : ∀ page id, filling.hide (mended page) id = (filling.hide page id).map mended) :
    @Likeness.Bridge Browser Browser Nat Nat (mendedLikeness settings) _ _ filling _ _ filling where
  inputs_iff := by
    rintro _ _ _ _ rfl rfl
    exact Iff.rfl
  clock_eq := by
    rintro page _ rfl
    rfl
  translator_eq := by
    rintro page _ rfl
    exact page.translator_mended
  record := by
    rintro page _ event rfl
    exact page.log_mended event
  fields := by
    rintro page _ rfl
    exact List.forall₂_same.mpr fun _ _ => ⟨rfl, rfl⟩
  insertShortcut := by
    rintro page _ key _ shortcut rfl rfl -
    have inserted := changes_mended settings (page.insertShortcut key shortcut)
    rw [← insertShortcut_mended] at inserted
    exact inserted
  appendNote := by
    rintro page _ key _ note rfl rfl -
    have appended := changes_mended settings (page.appendNote key note)
    rw [← appendNote_mended] at appended
    exact appended
  hasMarker := by
    rintro page _ key _ rfl rfl
    rfl
  step? := by
    rintro page _ key _ rfl rfl
    exact step?_eq page key
  write := by
    rintro page _ key _ text rfl rfl
    have written := changes_mended settings (filling.write page key text)
    rw [← write_eq] at written
    exact written
  focus := by
    rintro page _ key _ rfl rfl
    have moved := changes_mended settings (filling.focus page key)
    rw [← focus_eq] at moved
    exact moved
  hide := by
    rintro page _ handle rfl
    have hidden := changes_mended settings (filling.hide page (settings.boxId handle))
    rw [← hide_eq] at hidden
    exact hidden

end Browser

noncomputable def Running.mended (running : Running Browser Nat) : Running Browser Nat :=
  running.withPage running.page.mended

/-- An outcome with the page that is left of its page. -/
noncomputable def Session.mendedOutcome {α : Type} :
    EStateM.Result Fault (Running Browser Nat) α → EStateM.Result Fault (Running Browser Nat) α
  | .ok value after => .ok value after.mended
  | .error fault after => .error fault after.mended

namespace Browser

open Session

variable {settings : Settings} {running another : Running Browser Nat}

theorem sessions_mended (running : Running Browser Nat) :
    (mendedLikeness running.session.settings).Sessions running running.mended :=
  ⟨rfl, rfl, rfl, rfl, fun _ => List.forall₂_same.mpr fun _ _ => rfl, rfl⟩

theorem eq_mended (same : (mendedLikeness settings).Sessions running another) :
    another = running.mended := by
  have inputsEq (kind : LinkKind) : running.session.registry.inputs kind =
      another.session.registry.inputs kind := by
    have corresponding : List.Forall₂ Eq (running.session.registry.inputs kind)
        (another.session.registry.inputs kind) := same.inputs kind
    rwa [List.forall₂_eq_eq_eq] at corresponding
  have clockEq : running.session.registry.clock = another.session.registry.clock :=
    inputsEq .clock
  have calendarEq : running.session.registry.calendar = another.session.registry.calendar :=
    inputsEq .calendar
  obtain ⟨⟨_, _, ⟨_, _⟩, _⟩, _⟩ := another
  obtain rfl := same.other_settings_eq.trans same.settings_eq.symm
  obtain rfl := same.gap_eq
  obtain rfl := same.started_eq
  obtain rfl := same.pages
  obtain rfl := clockEq
  obtain rfl := calendarEq
  rfl

/-- An operation that takes corresponding sessions to corresponding ones has one outcome. -/
theorem run_mended {α : Type} {action : Action Browser Nat α} (running : Running Browser Nat)
    (acts : (mendedLikeness running.session.settings).Actions action action) :
    action.run running.mended = mendedOutcome (action.run running) := by
  have outcomes := acts running running.mended (sessions_mended running)
  generalize action.run running = outcome, action.run running.mended = otherOutcome at outcomes
  cases outcomes with
  | answered value after => rw [eq_mended after]; rfl
  | failed faults after =>
      rw [eq_mended after]
      cases faults with
      | same fault => rfl
      | refused causes => cases causes; rfl

/-! ### Boots -/

/-- A way of filling that leaves pages as they are: a search of a page fills nothing. -/
@[reducible]
def fillingNothing : Fillable Browser Nat where
  step? _ _ := none
  write page _ _ := .ok page
  focus page _ := .ok page
  hide page _ := .ok page

theorem startSession_mended (page : Browser) (settings : Settings) (holder : Holder) :
    page.mended.startSession settings holder =
      Prod.map id mended (page.startSession settings holder) := by
  have created : Session.create page.mended.bindLinks settings page.mended.serverOffset? =
      (Session.create page.bindLinks settings page.serverOffset? : Running Browser Nat).mended := by
    have recorded := page.bindLinks.log_mended (.gapTaken
      (ZoneGap.between page.reading.instant.offset page.serverOffset?).reconciled
      (ZoneGap.between page.reading.instant.offset page.serverOffset?).seconds)
    exact congrArg (Running.mk _) recorded
  have bridge := bridge_mended settings fillingNothing (fun _ _ => rfl) (fun _ _ _ => rfl)
    (fun _ _ => rfl) fun _ _ => rfl
  have starts := run_mended (Session.create page.bindLinks settings page.serverOffset?)
    (@Likeness.Bridge.start _ _ _ _ _ _ _ fillingNothing _ _ fillingNothing _ _ bridge)
  rw [startSession, startSession, created, starts]
  cases Session.start.run (Session.create page.bindLinks settings page.serverOffset?) <;> rfl

theorem boot_mended (page : Browser) (start : StartSettings) (holder : Holder) :
    page.mended.boot start holder = Prod.map id mended (page.boot start holder) := by
  have refusalEq : page.mended.refusal? = page.refusal? := rfl
  rw [boot_eq, boot_eq, refusalEq]
  cases page.refusal? with
  | some fault => rfl
  | none => exact startSession_mended { page with verbosity := _, guard := ⟨true⟩ } _ holder

theorem install_mended (page : Browser) (choices : Option Json) :
    page.mended.install choices = Prod.map id mended (page.install choices) := by
  have guardEq : page.mended.guard = page.guard := rfl
  have windowEq : page.mended.hasWindow = page.hasWindow := rfl
  have readyEq : page.mended.readyState? = page.readyState? := rfl
  rw [install, install, guardEq]
  split
  · rfl
  · cases StartSettings.ofChoices choices with
    | error fault => rfl
    | ok start =>
        simp only [windowEq, readyEq, boot_mended]
        split
        · cases BootTiming.ofReadyState page.readyState? <;> rfl
        · rfl

theorem bootPending_mended (page : Browser) (start : StartSettings) :
    page.mended.bootPending start = (page.bootPending start).mended := by
  rw [bootPending, bootPending, boot_mended]
  obtain ⟨outcome, booted⟩ := page.boot start .window
  cases outcome <;> rfl

theorem load_mended (page : Browser) : page.mended.load = page.load.mended := by
  have booted (starts : List StartSettings) (page : Browser) :
      starts.foldl bootPending page.mended = (starts.foldl bootPending page).mended := by
    induction starts generalizing page with
    | nil => rfl
    | cons start rest ih => rw [List.foldl_cons, List.foldl_cons, bootPending_mended, ih]
  exact booted page.pending { page with pending := [] }

/-! ### Events -/

/-- A way to serve requests that has no use for useless functions. -/
def Mends (service : Service) : Prop :=
  ∀ request page, service request (mended page) = Prod.map id mended (service request page)

theorem mends_busy : Mends .busy :=
  fun _ _ => rfl

section Respond

variable {service : Service} (mends : Mends service) (page : Browser)

include mends

theorem followLink_mended (link : QuickLink) :
    followLink service page.mended link = (followLink service page link).mended := by
  have slotEq : page.mended.slot = page.slot := rfl
  rw [followLink, followLink, slotEq]
  cases page.slot with
  | unbound => exact log_mended page _
  | missing => rfl
  | _ =>
      simp only [mends (.follow link) page]
      obtain ⟨outcome, after⟩ := service (.follow link) page
      cases outcome with
      | ok text => rfl
      | error fault =>
          cases fault with
          | busy => exact log_mended after _
          | failed cause => exact logFailure_mended after cause
          | _ => rfl

theorem click_mended (element : Element) :
    page.mended.click service element = Prod.map id mended (page.click service element) := by
  have clickedEq : page.mended.clicked = page.clicked := rfl
  rw [click, click]
  cases element.action with
  | none => rfl
  | some link =>
      simp only [clickedEq]
      split
      · rfl
      · have followed := followLink_mended mends { page with clicked := some element.key } link
        exact congrArg (fun after => (true, { after with clicked := page.clicked })) followed

theorem callSession_mended (holder : Holder) (call : ScriptCall) :
    page.mended.callSession service holder call =
      Prod.map id mended (page.callSession service holder call) := by
  have objectEq : page.mended.objectOf? holder = page.objectOf? holder := rfl
  rw [callSession, callSession, objectEq]
  cases page.objectOf? holder with
  | none => rfl
  | some report =>
      simp only
      cases call.request with
      | error fault => rfl
      | ok request =>
          simp only [mends request page]
          rfl

theorem respond_mended_of_plain {event : PageEvent} (plain : event.setsFunctions = false) :
    page.mended.respond service event = Prod.map id mended (page.respond service event) := by
  have withIdEq (id : String) : page.mended.document.withId? id = page.document.withId? id := rfl
  have objectEq (holder : Holder) : page.mended.objectOf? holder = page.objectOf? holder := rfl
  cases event with
  | setGlobal name function => cases plain
  | listen id events => cases plain
  | boot choices =>
      rw [respond, respond, bootScript, bootScript]
      cases StartSettings.ofChoices choices with
      | error fault => rfl
      | ok start =>
          simp only [boot_mended]
          rfl
  | install choices =>
      rw [respond, respond, install_mended]
      rfl
  | load =>
      rw [respond, respond, load_mended]
      rfl
  | release =>
      rw [respond, respond, objectEq]
      split <;> rfl
  | describe holder =>
      rw [respond, respond, objectEq]
      cases page.objectOf? holder <;> rfl
  | call holder call => exact callSession_mended mends page holder call
  | click place =>
      have linksEq : page.mended.links = page.links := rfl
      rw [respond, respond, linksEq]
      cases page.links[place]? with
      | none => rfl
      | some element =>
          simp only [click_mended mends]
          rfl
  | setAttribute id name value =>
      rw [respond, respond, setAttribute, setAttribute, withIdEq]
      cases page.document.withId? id <;> rfl
  | append id nodes =>
      rw [respond, respond, appendTo, appendTo, withIdEq]
      cases page.document.withId? id <;> rfl
  | remove id =>
      rw [respond, respond, removeElement, removeElement, withIdEq]
      cases page.document.withId? id <;> rfl
  | blur => rfl
  | setReading reading => rfl
  | setReadyState state => rfl

/-- A page without useless functions responds as before to an event without them. -/
theorem respond_mended (event : PageEvent) :
    page.mended.respond service event.mended = Prod.map id mended (page.respond service event) := by
  cases event with
  | setGlobal name function =>
      have publishedEq : page.mended.isPublished = page.isPublished := rfl
      have defined : page.mended.functions.define name (LanguageService.mendNamed name function) =
          (page.functions.define name function).mended := page.functions.define_mended name function
      rw [PageEvent.mended, respond, respond, setGlobal, setGlobal, publishedEq, defined]
      split
      · split <;> rfl
      · rfl
  | listen id events =>
      have withIdEq : page.mended.document.withId? id = page.document.withId? id := rfl
      rw [PageEvent.mended, respond, respond, listen, listen, withIdEq]
      cases page.document.withId? id with
      | none => rfl
      | some element =>
          have heard : page.mended.listeners ++ [(element.key, PageEvent.mendedAll events)] =
              mendedListeners (page.listeners ++ [(element.key, events)]) := by
            rw [mendedListeners, List.map_append]
            rfl
          simp only [heard]
          rfl
  | _ =>
      rw [PageEvent.mended_of_plain rfl]
      exact respond_mended_of_plain mends page rfl

end Respond

theorem respondBusy_mended (page : Browser) (event : PageEvent) :
    page.mended.respondBusy event.mended = (page.respondBusy event).mended := by
  rw [respondBusy, respondBusy, respond_mended mends_busy]
  rfl

/-- What listens to the focus is run as before. -/
theorem moveFocus_mended (page : Browser) (key : Nat) :
    page.mended.moveFocus key = (page.moveFocus key).mended := by
  have heard (events : List PageEvent) (page : Browser) :
      (events.map PageEvent.mended).foldl respondBusy page.mended =
        (events.foldl respondBusy page).mended := by
    induction events generalizing page with
    | nil => rfl
    | cons event rest ih =>
        rw [List.map_cons, List.foldl_cons, List.foldl_cons, respondBusy_mended, ih]
  have listening : (page.mended.listeners.filter fun listener => listener.1 == key).flatMap
      Prod.snd = ((page.listeners.filter fun listener => listener.1 == key).flatMap
        Prod.snd).map PageEvent.mended := by
    have filtered : page.mended.listeners.filter (fun listener => listener.1 == key) =
        mendedListeners (page.listeners.filter fun listener => listener.1 == key) :=
      List.filter_map
    rw [filtered, mendedListeners, List.flatMap_map, List.map_flatMap]
    simp only [PageEvent.mendedAll_eq_map]
  have documentEq : page.mended.document = page.document := rfl
  have activeEq : page.mended.active = page.active := rfl
  rw [moveFocus, moveFocus, documentEq, activeEq]
  split
  · simp only [listening]
    exact heard _ { page with active := some key }
  · rfl

/-! ### Requests and runs -/

theorem mends_serve : Mends serve := by
  intro request page
  have slotEq : page.mended.slot = page.slot := rfl
  cases slot : page.slot with
  | resting session =>
      have bridge := bridge_mended session.settings inferInstance (fun _ _ => rfl)
        (fun _ _ _ => rfl) (fun page key => congrArg Except.ok (page.moveFocus_mended key))
        hide_mended
      have served : (Session.serve request).run
          ⟨session, { page.mended with slot := .working }⟩ =
            mendedOutcome ((Session.serve request).run
              ⟨session, { page with slot := .working }⟩) :=
        run_mended ⟨session, { page with slot := .working }⟩ (bridge.serve request)
      simp only [serve, slotEq, slot, served]
      cases (Session.serve request).run ⟨session, { page with slot := .working }⟩ with
      | ok text running => rfl
      | error fault running =>
          exact congrArg (Prod.mk _) (running.page.restAfter_mended running.session fault)
  | _ =>
      rw [serve, serve, slotEq, slot]
      rfl

theorem step_mended (page : Browser) (event : PageEvent) :
    page.mended.step event.mended = Prod.map id mended (page.step event) := by
  have responded := respond_mended mends_serve { page with console := [], nested := [] } event
  have performed : ({ page.mended with console := [], nested := [] } : Browser).perform
      event.mended = Prod.map id mended
        (({ page with console := [], nested := [] } : Browser).perform event) := responded
  rw [step, step, performed]
  rfl

/-- A run of a page without useless functions shows what it showed with them. -/
theorem run_events_mended (page : Browser) (events : List PageEvent) :
    page.mended.run (PageEvent.mendedAll events) = Prod.map id mended (page.run events) := by
  induction events generalizing page with
  | nil => rfl
  | cons event rest ih =>
      have brokenEq : (page.step event).2.mended.broken = (page.step event).2.broken := rfl
      rw [PageEvent.mendedAll, run, run, step_mended]
      simp only [Prod.map, brokenEq, ih]
      split <;> rfl

end Browser

end QuickFill
