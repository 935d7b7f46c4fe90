import QuickFill.CommandLine.Run
import QuickFill.Proofs.Page.Links
import QuickFill.Proofs.Page.Start
import QuickFill.Proofs.Template.Joined
import QuickFill.Proofs.Template.Plain

/-!
# One click on the time of the server

A run that is told to click on the time of the server fills a clock input in the
template of time fields.  The link of that input keeps the template of its own kind of
fields, so the two write the same text into time fields and into no others: a field
with date and time gets the time alone.
-/

namespace QuickFill

open Session

/-- The template of fields with date and time goes on from that of dates as the
template of time fields does. -/
theorem clockTemplate_dateTime (step : Nat) :
    clockTemplate Settings.standard.dateTimeTemplate step =
      Settings.standard.dateTemplate ++
        ("T" ++ clockTemplate Settings.standard.timeTemplate step) := by
  rw [clockTemplate, clockTemplate]
  split
  · decide
  · rw [← String.append_assoc, ← String.append_assoc]
    congr 1

theorem fill_eq_ok {template text : String} {moment : Moment} :
    fill template moment = .ok text ↔ Template.render? template moment = some text := by
  rw [fill]
  split
  · next shown rendered => simp [rendered]
  · next none => simp [none]

/-- A field with date and time shows the date, and after a T what a time field shows. -/
theorem fill_dateTime {step : Nat} {value : String} {moment : Moment}
    (timed : moment.time.isSome = true)
    (filled : fill (clockTemplate Settings.standard.timeTemplate step) moment = .ok value) :
    ∃ day, fill Settings.standard.dateTemplate moment = .ok day ∧
      fill (clockTemplate Settings.standard.dateTimeTemplate step) moment =
        .ok (day ++ "T" ++ value) := by
  have plain : Template.isPlain Settings.standard.dateTemplate.toList = true := by decide
  obtain ⟨day, shown⟩ := Option.isSome_iff_exists.mp (Template.render?_isSome plain timed)
  have mark : Template.render? "T" moment = some "T" := rfl
  refine ⟨day, fill_eq_ok.mpr shown, fill_eq_ok.mpr ?_⟩
  rw [clockTemplate_dateTime, Template.render?_append shown, Template.render?_append mark,
    fill_eq_ok.mp filled, Option.map_some, Option.map_some, String.append_assoc]

theorem clockText_now {running : PageSession} {input : Nat} {template text : String} :
    clockText running input .now template = .ok text ↔
      ∃ instant, serverNow running = .ok instant ∧
        fill (clockTemplate template (stepOf running input)) (.ofInstant instant) = .ok text := by
  rw [clockText, clockMoment]
  cases serverNow running with
  | error fault => simp [Except.map, bind, Except.bind]
  | ok instant => simp [Except.map, bind, Except.bind]

namespace CommandLine

variable {fixture : PageFixture} {now : Instant} {handle : Nat}

/-- The clicks of a run, one after another. -/
def performAll : List Click → Action Workbench Nat Unit
  | [] => pure ()
  | click :: rest => do
    let _ ← click.perform
    performAll rest

theorem run_performAll_cons (click : Click) (rest : List Click) (running : PageSession) :
    (performAll (click :: rest)).run running =
      match click.perform.run running with
      | .error fault after => .error fault after
      | .ok _ next => (performAll rest).run next := by
  rw [performAll, EStateM.run_bind]
  cases click.perform.run running <;> rfl

theorem run_simulate (clicks : List Click) (before : PageSession) :
    (simulate clicks).run before =
      match Session.start.run before with
      | .error fault started => .error fault started
      | .ok report started =>
        match (performAll clicks).run started with
        | .error fault after => .error fault after
        | .ok () after => .ok report after := by
  have loop (rest : List Click) (running : PageSession) :
      (forIn rest PUnit.unit fun click _ => (do
        let _ ← click.perform
        pure (ForInStep.yield PUnit.unit) : Action Workbench Nat _)).run running =
          (performAll rest).run running := by
    induction rest generalizing running with
    | nil => rfl
    | cons click rest ih =>
        rw [run_performAll_cons, List.forIn_cons]
        simp only [EStateM.run_bind]
        cases click.perform.run running with
        | error fault after => rfl
        | ok text next => exact ih next
  simp only [simulate, EStateM.run_bind]
  cases Session.start.run before with
  | error fault started => rfl
  | ok report started =>
      simp only [loop]
      cases (performAll clicks).run started <;> rfl

theorem run_simulate_one (click : Click) (before : PageSession) :
    (simulate [click]).run before =
      match Session.start.run before with
      | .error fault started => .error fault started
      | .ok report started =>
        match click.perform.run started with
        | .error fault after => .error fault after
        | .ok _ after => .ok report after := by
  rw [run_simulate]
  cases Session.start.run before with
  | error fault started => rfl
  | ok report started =>
      simp only [run_performAll_cons]
      cases click.perform.run started <;> rfl

/-- A page described to a run starts without a fault. -/
theorem start_openSession (fixture : PageFixture) (now : Instant) :
    let before := openSession fixture now
    let order := before.page.page.inputOrder
    ∃ log, Session.start.run before =
      .ok (PageSession.startReport before order) (PageSession.searched before order order log) := by
  have formed : (openSession fixture now).page.page.WellFormed :=
    Page.wellFormed_ofFixture fixture
  apply PageSession.run_start_searched formed rfl
  intro kind number _
  cases kind <;> exact List.not_mem_nil

/-- The link that a start puts after the clock input with a handle: it keeps the template
of the kind of the input. -/
theorem exists_startLink {before : PageSession} (formed : before.page.page.WellFormed)
    (empty : before.session.registry = {}) {number : Nat}
    (registered : (PageSession.linked before before.page.page.inputOrder .clock)[handle]? =
      some number) :
    ∃ kind, before.fieldKind? number = some kind ∧ kind.linkKind = .clock ∧
      number < before.page.page.inputs.length ∧
        PageSession.startLinks before before.page.page.inputOrder number =
          [Session.shortcutOf before kind.label (kind.action before.session.settings handle)] := by
  obtain ⟨inOrder, known⟩ := List.mem_filter.mp (List.mem_of_getElem? registered)
  obtain ⟨kind, isKind, same⟩ := (Option.any_eq_true _ _).mp known
  have linkKind : kind.linkKind = .clock := by simpa using same
  have onPage := formed.mem_inputOrder.mp inOrder
  have nodup : (PageSession.linked before before.page.page.inputOrder .clock).Nodup :=
    formed.inputOrder_nodup.filter _
  have placeEq : (PageSession.linked before before.page.page.inputOrder .clock).idxOf number =
      handle := by
    obtain ⟨place, isNumber⟩ := List.getElem?_eq_some_iff.mp registered
    rw [← isNumber]
    exact nodup.idxOf_getElem handle place
  refine ⟨kind, isKind, linkKind, onPage, ?_⟩
  rw [PageSession.startLinks, isKind]
  simp only [if_pos inOrder, PageSession.startLink, linkKind, placeEq, empty]
  simp [Registry.inputs]

/-- The type of a clock input tells its kind. -/
theorem type_of_clock {before : PageSession} {number : Nat} {kind : FieldKind}
    (known : before.fieldKind? number = some kind) (linkKind : kind.linkKind = .clock) :
    (kind = .time ∧ before.page.page.inputs[number]?.map Input.type = some "time") ∨
      (kind = .dateTime ∧
        before.page.page.inputs[number]?.map Input.type = some "datetime-local") := by
  obtain ⟨found, field, isKind⟩ := Option.bind_eq_some_iff.mp known
  obtain ⟨input, inputFound, rfl⟩ := Option.map_eq_some_iff.mp field
  rw [inputFound, Option.map_some, Option.some_inj, Option.some_inj]
  simp only [Field.kind?] at isKind
  split at isKind
  · next time =>
    exact Or.inl ⟨(Option.some.inj isKind).symm, time.1⟩
  · split at isKind
    · obtain rfl := Option.some.inj isKind
      cases linkKind
    · split at isKind
      · next dateTime =>
        exact Or.inr ⟨(Option.some.inj isKind).symm, dateTime.1⟩
      · cases isKind

/-- What the link after the clock input with a handle writes there, and what is there
after a run with one click on that handle. -/
structure NowTexts (started after : PageSession) (handle number : Nat) (link : QuickLink)
    (text value : String) : Prop where
  registered : started.session.registry.clock[handle]? = some number
  linked : (started.page.page.shortcut? number).map (fun shortcut => shortcut.action) = some link
  handle_eq : link.kind = .clock ∧ link.handle = handle
  followed : ∃ ended, (Session.follow link).run started = .ok text ended ∧
    ended.page.page.value? number = some text
  clicked : after.page.page.value? number = some value
  /-- Only time fields get the text of their link. -/
  agree_iff : value = text ↔ started.page.page.inputs[number]?.map Input.type = some "time"
  type_eq : started.page.page.inputs[number]?.map Input.type = some "datetime-local" ∨
    started.page.page.inputs[number]?.map Input.type = some "time"
  /-- Any other clock input has the time without the date that its link puts before it. -/
  dated : started.page.page.inputs[number]?.map Input.type = some "datetime-local" →
    ∃ instant day, serverNow started = .ok instant ∧
      fill started.session.settings.dateTemplate (.ofInstant instant) = .ok day ∧
        text = day ++ "T" ++ value

/-- A click that fills an input fills it with the text of a request. -/
theorem perform_now_eq_ok {started after : PageSession} {value : String}
    (performed : (Click.now handle).perform.run started = .ok value after) :
    ∃ number, started.session.registry.resolve .clock handle = .ok number ∧
      number < started.page.page.inputs.length ∧
        clockText started number .now started.session.settings.timeTemplate = .ok value ∧
          after.page.page.value? number = some value := by
  let template := started.session.settings.timeTemplate
  have filled : (Click.now handle).perform.run started =
      (fillInput .clock handle (.clock handle .now (some template))).run started := by
    simp only [Click.perform, EStateM.run_bind, EStateM.run_get]
    exact run_fillClock handle .now template (.clock handle .now (some template))
      (fun _ => rfl) fun _ => rfl
  rw [filled, PageSession.run_fillInput_logged fun _ => rfl] at performed
  cases resolved : started.session.registry.resolve .clock handle with
  | error fault => simp [resolved] at performed
  | ok number =>
      rw [resolved] at performed
      simp only at performed
      cases texted : requestText started number (.clock handle .now (some template)) with
      | error fault => simp [texted] at performed
      | ok text =>
          rw [texted] at performed
          simp only at performed
          split at performed
          · next onPage =>
            obtain ⟨rfl, rfl⟩ := EStateM.Result.ok.inj performed
            exact ⟨number, rfl, onPage, texted, Page.value?_modifyInput_self onPage text⟩
          · cases performed

/-- On a started page, what a click leaves in a clock input and what its link writes. -/
theorem exists_nowTexts {before started after : PageSession} {log : List LogEvent}
    {number : Nat} {value : String} (formed : before.page.page.WellFormed)
    (empty : before.session.registry = {}) (standard : before.session.settings = .standard)
    (startedEq : started = before.searched before.page.page.inputOrder
      before.page.page.inputOrder log)
    (resolved : started.session.registry.resolve .clock handle = .ok number)
    (texted : clockText started number .now started.session.settings.timeTemplate = .ok value)
    (clicked : after.page.page.value? number = some value) :
    ∃ link text, NowTexts started after handle number link text value := by
  have registered : started.session.registry.clock[handle]? = some number :=
    Registry.resolve_eq_ok.mp resolved
  have settingsEq : started.session.settings = .standard := by
    rw [startedEq]
    exact standard
  have inputsEq : started.page.page.inputs = before.page.page.inputs := by
    rw [startedEq]
    rfl
  have inLinked : (PageSession.linked before before.page.page.inputOrder .clock)[handle]? =
      some number := by
    rw [startedEq, PageSession.searched] at registered
    simpa [Registry.extend, empty] using registered
  obtain ⟨kind, known, linkKind, inPage, linksEq⟩ := exists_startLink formed empty inLinked
  let notes := PageSession.startNotes before before.page.page.inputOrder
  have shortcutEq : (before.page.page.decorated _ notes).shortcut? number = _ :=
    Page.shortcut?_decorated formed inPage linksEq
  have onPage : number < started.page.page.inputs.length := by
    rw [inputsEq]
    exact inPage
  rw [standard] at shortcutEq
  have linked : (started.page.page.shortcut? number).map (fun shortcut => shortcut.action) =
      some (kind.action .standard handle) := by
    rw [startedEq, PageSession.searched, shortcutEq]
    rfl
  obtain ⟨instant, reading, filled⟩ := clockText_now.mp texted
  rw [settingsEq] at filled
  rcases type_of_clock known linkKind with ⟨rfl, isTime⟩ | ⟨rfl, isDateTime⟩
  · rw [← inputsEq] at isTime
    refine ⟨_, value, registered, linked, ⟨rfl, rfl⟩, ?_, clicked, ?_, Or.inr isTime, ?_⟩
    · exact PageSession.exists_followed resolved onPage
        (clockText_now.mpr ⟨instant, reading, filled⟩)
    · exact ⟨fun _ => isTime, fun _ => rfl⟩
    · intro isDateTime
      rw [isTime] at isDateTime
      exact absurd (Option.some.inj isDateTime) (by decide)
  · rw [← inputsEq] at isDateTime
    obtain ⟨day, dated, joined⟩ := fill_dateTime rfl filled
    refine ⟨_, day ++ "T" ++ value, registered, linked, ⟨rfl, rfl⟩, ?_, clicked, ?_,
      Or.inl isDateTime, ?_⟩
    · exact PageSession.exists_followed resolved onPage
        (clockText_now.mpr ⟨instant, reading, joined⟩)
    · constructor
      · intro same
        have longer := congrArg String.length same
        rw [String.length_append, String.length_append] at longer
        have mark : "T".length = 1 := rfl
        omega
      · intro isTime
        rw [isDateTime] at isTime
        exact absurd (Option.some.inj isTime) (by decide)
    · intro _
      refine ⟨instant, day, reading, ?_, rfl⟩
      rw [settingsEq]
      exact dated

/-- A run with one click, beside the link on the page that the run starts. -/
def ClickedBeside (fixture : PageFixture) (now : Instant) (handle : Nat) (shown : String) : Prop :=
  ∃ report started after number link text value,
    Session.start.run (openSession fixture now) = .ok report started ∧
      (simulate [.now handle]).run (openSession fixture now) = .ok report after ∧
        shown = summary after report ∧ NowTexts started after handle number link text value

/-- A run with one click on the time of the server leaves the text of the link in a time
field, and that text without its date in a field with date and time. -/
theorem now_click {shown : String} (clicked : runOn fixture now [.now handle] = .ok shown) :
    ClickedBeside fixture now handle shown := by
  rw [runOn] at clicked
  cases simulated : (simulate [.now handle]).run (openSession fixture now) with
  | error fault after => simp [simulated] at clicked
  | ok report after =>
      rw [simulated] at clicked
      have shownEq : shown = summary after report := (Except.ok.inj clicked).symm
      obtain ⟨log, opened⟩ := start_openSession fixture now
      have outcome := (run_simulate_one (.now handle) _).symm.trans simulated
      rw [opened] at outcome
      simp only at outcome
      generalize startedEq : PageSession.searched (openSession fixture now)
        (openSession fixture now).page.page.inputOrder
        (openSession fixture now).page.page.inputOrder log = started at outcome opened
      cases performed : (Click.now handle).perform.run started with
      | error fault ended => simp [performed] at outcome
      | ok value ended =>
          rw [performed] at outcome
          obtain ⟨rfl, rfl⟩ := EStateM.Result.ok.inj outcome
          obtain ⟨number, resolved, -, texted, left⟩ := perform_now_eq_ok performed
          obtain ⟨link, text, texts⟩ := exists_nowTexts (Page.wellFormed_ofFixture fixture)
            rfl rfl startedEq.symm resolved texted left
          exact ⟨_, started, ended, number, link, text, value, opened, simulated, shownEq, texts⟩

/-- A page with an alarm and a deadline; its server is five hours behind universal time. -/
def deadlineFixture : PageFixture where
  serverOffset := some "-18000"
  fields := [
    { id := "alarm", type := "time", classes := ["vTimeField"], step := some "1" },
    { id := "deadline", type := "datetime-local", classes := ["vDateTimeField"] }]

/-- Half an hour into March 2024, an hour ahead of universal time. -/
def earlyMarch : Instant :=
  ⟨1709249405, 0, 3600⟩

/-- Both clicks show a page, and the theorem speaks of both. -/
theorem now_click_deadline :
    ∃ alarm deadline, runOn deadlineFixture earlyMarch [.now 0] = .ok alarm ∧
      ClickedBeside deadlineFixture earlyMarch 0 alarm ∧
        runOn deadlineFixture earlyMarch [.now 1] = .ok deadline ∧
          ClickedBeside deadlineFixture earlyMarch 1 deadline := by
  have shows (handle : Nat) (answered :
      (runOn deadlineFixture earlyMarch [.now handle]).toOption.isSome = true) :
      ∃ shown, runOn deadlineFixture earlyMarch [.now handle] = .ok shown := by
    cases outcome : runOn deadlineFixture earlyMarch [.now handle] with
    | ok shown => exact ⟨shown, rfl⟩
    | error fault => simp [outcome, Except.toOption] at answered
  obtain ⟨alarm, alarmShown⟩ := shows 0 (by decide +kernel)
  obtain ⟨deadline, deadlineShown⟩ := shows 1 (by decide +kernel)
  exact ⟨alarm, deadline, alarmShown, now_click alarmShown, deadlineShown, now_click deadlineShown⟩

/-- The link of the deadline writes a date and a time, and the click on it a time. -/
theorem link_of_deadline :
    ∃ report started after ended,
      Session.start.run (openSession deadlineFixture earlyMarch) = .ok report started ∧
      (simulate [.now 1]).run (openSession deadlineFixture earlyMarch) = .ok report after ∧
      started.session.registry.clock[1]? = some 1 ∧
      (started.page.page.shortcut? 1).map (fun shortcut => shortcut.action) =
        some (.clockNow 1 "%Y-%m-%dT%H:%M") ∧
      (Session.follow (.clockNow 1 "%Y-%m-%dT%H:%M")).run started =
        .ok "2024-02-29T18:30" ended ∧
      after.page.page.value? 1 = some "18:30" := by
  have checked : (match Session.start.run (openSession deadlineFixture earlyMarch),
        (simulate [.now 1]).run (openSession deadlineFixture earlyMarch) with
      | .ok report started, .ok other after =>
        report == other && started.session.registry.clock[1]? == some 1 &&
          (started.page.page.shortcut? 1).map (fun shortcut => shortcut.action) ==
            some (.clockNow 1 "%Y-%m-%dT%H:%M") &&
          (match (Session.follow (.clockNow 1 "%Y-%m-%dT%H:%M")).run started with
            | .ok text _ => text == "2024-02-29T18:30"
            | .error _ _ => false) &&
          after.page.page.value? 1 == some "18:30"
      | _, _ => false) = true := by
    decide +kernel
  revert checked
  generalize openSession deadlineFixture earlyMarch = before
  intro checked
  cases opened : Session.start.run before with
  | error fault started => simp [opened] at checked
  | ok report started =>
      cases simulated : (simulate [.now 1]).run before with
      | error fault after => simp [opened, simulated] at checked
      | ok other after =>
          rw [opened, simulated] at checked
          simp only [Bool.and_eq_true, beq_iff_eq] at checked
          obtain ⟨⟨⟨⟨rfl, registered⟩, linked⟩, texted⟩, left⟩ := checked
          split at texted
          · next text ended followed =>
            obtain rfl := beq_iff_eq.mp texted
            exact ⟨report, started, after, ended, rfl, rfl, registered, linked, followed, left⟩
          · cases texted

end CommandLine

end QuickFill
