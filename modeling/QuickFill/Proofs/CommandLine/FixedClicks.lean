import QuickFill.Proofs.CommandLine.LastClick

/-!
# Clicks on fixed values

A click on an hour, or on a date that was picked, writes the same text at any time.  So two
runs whose clocks differ, but not in their offsets, show the same when they have such clicks
only.  The hour -1 is no hour: it stands for the time of the server, which is read from the
clock.
-/

namespace QuickFill

open Session PageSession

/-- A request for a value that the clock has no part in. -/
def SessionRequest.IsFixed : SessionRequest → Prop
  | .clock _ (.hour _) _ => True
  | .pick _ _ _ _ => True
  | _ => False

namespace Click

/-- A click on an hour or a date; the hour -1 stands for now. -/
def IsFixed : Click → Prop
  | .hour _ number => number ≠ -1
  | .pick _ _ => True
  | _ => False

instance : DecidablePred IsFixed
  | .now _ => .isFalse id
  | .hour _ number => inferInstanceAs (Decidable (number ≠ -1))
  | .today _ _ => .isFalse id
  | .pick _ _ => .isTrue trivial

theorem IsFixed.request {click : Click} {request : SessionRequest} (fixed : click.IsFixed)
    (requested : click.request = .ok request) : request.IsFixed := by
  cases click with
  | now handle => exact fixed.elim
  | hour handle number =>
      have isHour : ¬ number = -1 := fixed
      rw [Click.request, ClockValue.ofSentinel, if_neg isHour] at requested
      split at requested
      · obtain rfl := Except.ok.inj requested
        trivial
      · cases requested
  | today handle days => exact fixed.elim
  | pick handle date =>
      obtain rfl := Except.ok.inj requested
      trivial

end Click

/-! ### Sessions at different times -/

/-- Two sessions that differ in their clocks and logs only. -/
structure Timeless (running other : PageSession) : Prop where
  session_eq : other.session = running.session
  page_eq : other.page.page = running.page.page
  translator_eq : other.page.translator = running.page.translator

/-- Outcomes that differ in clocks and logs only. -/
inductive SameOutcome {α : Type} :
    EStateM.Result Fault PageSession α → EStateM.Result Fault PageSession α → Prop
  | answered (value : α) {running other : PageSession} : Timeless running other →
    SameOutcome (.ok value running) (.ok value other)
  | failed (fault : Fault) {running other : PageSession} : Timeless running other →
    SameOutcome (.error fault running) (.error fault other)

/-- Operations that do the same at any time. -/
def SameActions {α : Type} (action other : Action Workbench Nat α) : Prop :=
  ∀ running another, Timeless running another → SameOutcome (action.run running) (other.run another)

variable {running other : PageSession} {request : SessionRequest} {number : Nat}

theorem SameActions.bind {α β : Type} {action otherAction : Action Workbench Nat α}
    {next otherNext : α → Action Workbench Nat β} (first : SameActions action otherAction)
    (second : ∀ value, SameActions (next value) (otherNext value)) :
    SameActions (action >>= next) (otherAction >>= otherNext) := by
  intro running another same
  have middle := first running another same
  rw [EStateM.run_bind, EStateM.run_bind]
  generalize action.run running = outcome, otherAction.run another = otherOutcome at middle
  cases middle with
  | answered value after => exact second value _ _ after
  | failed fault after => exact .failed fault after

theorem sameActions_pure {α : Type} (value : α) :
    SameActions (pure value) (pure value) :=
  fun _ _ same => .answered value same

theorem sameActions_log (event otherEvent : LogEvent) :
    SameActions (Session.log event) (Session.log otherEvent) :=
  fun _ _ same => .answered () ⟨same.session_eq, same.page_eq, same.translator_eq⟩

theorem sameActions_yields {α : Type} (outcome : Except Fault α) :
    SameActions (Session.yields outcome) (Session.yields outcome) := by
  intro running another same
  cases outcome with
  | ok value => exact .answered value same
  | error fault => exact .failed fault same

theorem sameActions_resolve (kind : LinkKind) (handle : Nat) :
    SameActions (Session.resolve kind handle) (Session.resolve kind handle) := by
  intro running another same
  rw [run_resolve, run_resolve, same.session_eq]
  cases running.session.registry.resolve kind handle with
  | ok input => exact .answered input same
  | error fault => exact .failed fault ⟨same.session_eq, same.page_eq, same.translator_eq⟩

/-- A page changes or refuses a change at any time alike. -/
theorem sameActions_change (alter : Page → Except PageFault Page) :
    SameActions (Session.change fun bench => bench.changePage (alter bench.page))
      (Session.change fun bench => bench.changePage (alter bench.page)) := by
  intro running another same
  rw [run_change, run_change, same.page_eq]
  cases alter running.page.page with
  | ok page => exact .answered () ⟨same.session_eq, rfl, same.translator_eq⟩
  | error cause => exact .failed (.page cause) same

/-! ### Fixed requests -/

theorem Timeless.stepOf_eq (same : Timeless running other) :
    stepOf other number = stepOf running number := by
  have stepPage : Fillable.step? other.page number = Fillable.step? running.page number :=
    congrArg (fun page : Page => page.step? number) same.page_eq
  rw [stepOf, stepOf, same.session_eq, stepPage]

/-- The clock has no part in the text of a fixed request. -/
theorem Timeless.requestText_eq (same : Timeless running other) (fixed : request.IsFixed) :
    requestText other number request = requestText running number request := by
  cases request with
  | clock handle value template =>
      cases value with
      | now => exact fixed.elim
      | hour hour =>
          rw [requestText, requestText, clockText, clockText, same.stepOf_eq, same.session_eq]
          rfl
  | today handle days => exact fixed.elim
  | pick handle year month day =>
      have translatorEq : Environment.translator other.page =
          Environment.translator running.page := same.translator_eq
      rw [requestText, requestText, pickText, pickText, translatorEq]
  | boxId handle => exact fixed.elim
  | follow link => exact fixed.elim

theorem Timeless.requestEnd (same : Timeless running other) (fixed : request.IsFixed) :
    SameActions (Session.requestEnd running number request)
      (Session.requestEnd other number request) := by
  cases request with
  | clock handle value template => exact sameActions_log _ _
  | today handle days => exact fixed.elim
  | pick handle year month day =>
      rw [Session.requestEnd, Session.requestEnd, same.session_eq]
      exact (sameActions_change fun page =>
        page.hide (running.session.settings.boxId handle)).bind fun _ => sameActions_log _ _
  | boxId handle => exact fixed.elim
  | follow link => exact fixed.elim

theorem sameActions_fillInput (fixed : request.IsFixed) (kind : LinkKind) (handle : Nat) :
    SameActions (fillInput kind handle request) (fillInput kind handle request) := by
  apply (sameActions_resolve kind handle).bind
  intro number running other same
  have written (text : String) :
      SameActions (Session.writeAndFocus number text) (Session.writeAndFocus number text) :=
    (sameActions_change fun page => page.write number text).bind fun _ =>
      sameActions_change fun page => page.focus number
  -- Both look at their session once, and go on from what they see.
  change SameOutcome
    ((Session.yields (requestText running number request) >>= fun text => do
      writeAndFocus number text
      Session.requestEnd running number request
      return text).run running)
    ((Session.yields (requestText other number request) >>= fun text => do
      writeAndFocus number text
      Session.requestEnd other number request
      return text).run other)
  rw [same.requestText_eq fixed]
  refine SameActions.bind (sameActions_yields _) (fun text => ?_) running other same
  exact (written text).bind fun _ => (same.requestEnd fixed).bind fun _ => sameActions_pure text

theorem Click.IsFixed.sameActions {click : Click} (fixed : click.IsFixed) :
    SameActions click.perform click.perform := by
  intro running other same
  rw [run_perform, run_perform]
  cases requested : click.request with
  | error fault => exact .failed fault same
  | ok request =>
      exact sameActions_fillInput (fixed.request requested) click.kind click.handle _ _ same

namespace CommandLine

theorem sameActions_performAll {clicks : List Click}
    (fixed : ∀ click ∈ clicks, click.IsFixed) :
    SameActions (performAll clicks) (performAll clicks) := by
  induction clicks with
  | nil => exact sameActions_pure ()
  | cons click rest ih =>
      exact (fixed click List.mem_cons_self).sameActions.bind fun _ =>
        ih fun other member => fixed other (List.mem_cons_of_mem _ member)

variable {fixture : PageFixture} {now later : Instant} {clicks : List Click}

/-- At another instant with the same offset, a session is opened with another clock. -/
theorem openSession_eq (sameOffset : now.offset = later.offset) :
    openSession fixture later = (openSession fixture now).withPage
      { (openSession fixture now).page with clock := later } := by
  have gapEq : ZoneGap.between later.offset (ZoneGap.readServerOffset? fixture.serverOffset) =
      ZoneGap.between now.offset (ZoneGap.readServerOffset? fixture.serverOffset) := by
    rw [sameOffset]
  simp only [openSession, Session.create, Running.withPage, Environment.clock, gapEq,
    Environment.record]

theorem summary_eq_of_timeless {running other : PageSession} (same : Timeless running other)
    (report : StartReport) : summary other report = summary running report := by
  delta summary
  rw [same.session_eq, same.page_eq]

/-- Fixed clicks end alike at two instants with one offset. -/
theorem runOn_eq (sameOffset : now.offset = later.offset)
    (fixed : ∀ click ∈ clicks, click.IsFixed) :
    runOn fixture now clicks = runOn fixture later clicks := by
  let order := (Page.ofFixture fixture).inputOrder
  let report := startReport (openSession fixture now) order
  obtain ⟨log, started⟩ : ∃ log, Session.start.run (openSession fixture now) =
      .ok report ((openSession fixture now).searched order order log) :=
    start_openSession fixture now
  obtain ⟨otherLog, otherStarted⟩ : ∃ log, Session.start.run (openSession fixture later) =
      .ok report ((openSession fixture later).searched order order log) := by
    have reportEq : startReport (openSession fixture later) order = report := by
      rw [openSession_eq sameOffset]
      rfl
    rw [← reportEq]
    exact start_openSession fixture later
  have same : Timeless ((openSession fixture now).searched order order log)
      ((openSession fixture later).searched order order otherLog) := by
    rw [openSession_eq sameOffset]
    exact ⟨rfl, rfl, rfl⟩
  have performed := sameActions_performAll fixed _ _ same
  rw [runOn, runOn, run_simulate, run_simulate, started, otherStarted]
  simp only
  generalize (performAll clicks).run ((openSession fixture now).searched order order log) = outcome,
    (performAll clicks).run ((openSession fixture later).searched order order otherLog) =
      otherOutcome at performed
  cases performed with
  | answered value after => exact congrArg Except.ok (summary_eq_of_timeless after report).symm
  | failed fault after => rfl

variable {invocation : Invocation} {time other : String}

/-- Two runs with clicks on fixed values only, at two readable times with one offset, end
alike: they show the same text, or fail for the same reason. -/
theorem fixed_clicks (reads : Instant.read? time.toList = some now)
    (otherReads : Instant.read? other.toList = some later) (sameOffset : now.offset = later.offset)
    (fixed : ∀ click ∈ invocation.clicks, click.IsFixed) (source : Option String)
    (systemTime otherSystemTime : Instant) :
    { invocation with time := some time }.run source systemTime =
      { invocation with time := some other }.run source otherSystemTime := by
  have timeEq : runTime { invocation with time := some time } systemTime = .ok now := by
    simp only [runTime, reads]
  have otherEq : runTime { invocation with time := some other } otherSystemTime = .ok later := by
    simp only [runTime, otherReads]
  rw [run_eq, run_eq, timeEq, otherEq]
  split
  · split
    · rfl
    · next text =>
      split
      · rfl
      · next fixture decoded => exact runOn_eq sameOffset fixed
  · rfl

/-- The appointment with two hours and a date that was picked. -/
def plannedAppointment : Invocation :=
  { appointment with clicks := [.hour 0 6, .pick 0 ⟨2025, 12, 31, by decide⟩, .hour 0 12] }

/-- The run shows the same early on the first of March and, a year later, in the evening. -/
theorem fixed_clicks_plannedAppointment :
    (Instant.read? "2024-03-01T00:30:05+01:00".toList).isSome ∧
      (Instant.read? "2025-03-01T23:59:60+01:00".toList).isSome ∧
        (∀ click ∈ plannedAppointment.clicks, click.IsFixed) ∧
          { plannedAppointment with time := some "2024-03-01T00:30:05+01:00" }.run
              (some appointmentText) earlyMarch =
            { plannedAppointment with time := some "2025-03-01T23:59:60+01:00" }.run
              (some appointmentText) earlyMarch := by
  have reads : Instant.read? "2024-03-01T00:30:05+01:00".toList =
      some ⟨1709249405, 0, 3600⟩ := by decide +kernel
  have otherReads : Instant.read? "2025-03-01T23:59:60+01:00".toList =
      some ⟨1740869999, 1000000000, 3600⟩ := by decide +kernel
  have fixed : ∀ click ∈ plannedAppointment.clicks, click.IsFixed := by decide
  refine ⟨by rw [reads]; rfl, by rw [otherReads]; rfl, fixed, ?_⟩
  exact fixed_clicks reads otherReads rfl fixed _ _ _

/-- The hour -1 is filled with the time of the server, so it is another text at another
time. -/
theorem hour_now_differs :
    ∃ now later, Instant.read? "2024-03-01T00:30:05+01:00".toList = some now ∧
      Instant.read? "2024-03-01T08:30:05+01:00".toList = some later ∧ now.offset = later.offset ∧
        { appointment with
          clicks := [.hour 0 (-1)], time := some "2024-03-01T00:30:05+01:00" }.run
            (some appointmentText) earlyMarch ≠
          { appointment with
            clicks := [.hour 0 (-1)], time := some "2024-03-01T08:30:05+01:00" }.run
              (some appointmentText) earlyMarch := by
  refine ⟨⟨1709249405, 0, 3600⟩, ⟨1709278205, 0, 3600⟩, ?_, ?_, rfl, ?_⟩ <;> decide +kernel

end CommandLine

end QuickFill
