import QuickFill.Proofs.Browser.Opened
import QuickFill.Proofs.Browser.Shared
import QuickFill.Proofs.Page.Start

/-!
# One page, in memory and in a browser

A described page is built in memory and started, and its document is opened in a browser
and booted.  The two searches report the same, and whatever is then asked of both pages
has the same answers and leaves them looking the same, but for two things that each page
has in its own way: a document keeps each class of a note once, and each page words it in
its own way when a calendar box is missing.
-/

namespace QuickFill

namespace PageFixture

def session (fixture : PageFixture) (settings : Settings) (reading : BrowserReading) :
    PageSession :=
  Session.create (fixture.bench reading) settings (ZoneGap.readServerOffset? fixture.serverOffset)

/-- A described page acts alike in memory and in a browser: a start of the session and a
boot of the document report the same, and all calls after that, until one breaks both pages,
have the same answers and lead to pages of which the same is seen. -/
def ActsAlike (views : PageView → PageView → Prop) (faults : Fault → Fault → Prop)
    (fixture : PageFixture) (choices : Option Json) (settings : Settings)
    (reading : BrowserReading) (selectors : SelectorReader) : Prop :=
  ∃ report, ∃ running : PageSession, ∃ booted,
    Session.start.run (fixture.session settings reading) = .ok report running ∧
    (Browser.ofDocument fixture.document reading selectors).perform (.boot choices) =
      (.report ⟨running.session.gap.seconds, report⟩, booted) ∧
    ∀ calls,
      List.Forall₂ (Option.Rel (SameAnswer faults)) (running.attendAll calls).1
        (booted.attendAll calls).1 ∧
      views (running.attendAll calls).2.page.page.view (booted.attendAll calls).2.view

end PageFixture

/-- What is seen of a page in memory and of a document that is alike: the same, when notes
have two classes, and else the same with each class of a note once. -/
def AlikeViews (settings : Settings) (page document : PageView) : Prop :=
  document = page.once ∧ (settings.noteClass ≠ settings.helpClass → document = page)

namespace PageFixture

variable {fixture : PageFixture} {choices : Option Json} {start : StartSettings}

/-- The class that notes share with other texts is not chosen by scripts. -/
theorem helpClass_ofChoices (chosen : StartSettings.ofChoices choices = .ok start) :
    start.settings.helpClass = "help" := by
  cases choices with
  | none =>
      obtain rfl := Except.ok.inj chosen
      rfl
  | some value =>
      rw [StartSettings.ofChoices.eq_def] at chosen
      split at chosen
      · next absent => cases absent
      · obtain rfl := Except.ok.inj chosen
        rfl
      · split at chosen
        · obtain rfl := Except.ok.inj chosen
          rfl
        · cases chosen

theorem Suits.plain (suits : fixture.Suits start.settings)
    (chosen : StartSettings.ofChoices choices = .ok start) : start.settings.Plain where
  shortcutsClass := suits.shortcutsClass
  noteClass := suits.noteClass
  helpClass := by
    rw [helpClass_ofChoices chosen]
    decide

theorem exists_started (fixture : PageFixture) (settings : Settings) (reading : BrowserReading) :
    ∃ report running, Session.start.run (fixture.session settings reading) = .ok report running := by
  have formed : (fixture.session settings reading).page.page.WellFormed :=
    Page.wellFormed_ofFixture fixture
  have fresh : ∀ kind, ∀ number ∈ PageSession.linked (fixture.session settings reading)
      (fixture.session settings reading).page.page.inputOrder kind,
        number ∉ (fixture.session settings reading).session.registry.inputs kind := by
    intro kind number _
    cases kind <;> exact List.not_mem_nil
  obtain ⟨log, started⟩ := PageSession.run_start_searched formed rfl fresh
  exact ⟨_, _, started⟩

/-- The sessions on a described page in memory and in a browser that has claimed it
correspond. -/
theorem Suits.sessions {settings : Settings} (suits : fixture.Suits settings)
    (reading : BrowserReading) (selectors : SelectorReader) (verbosity : Verbosity) :
    let claimed : Browser :=
      { Browser.ofDocument fixture.document reading selectors with
        verbosity := verbosity, guard := ⟨true⟩ }
    (fixture.scene settings).likeness.Sessions (fixture.session settings reading)
      (Session.create claimed.bindLinks settings claimed.serverOffset?) := by
  intro claimed
  have mirrored : Mirrored (fixture.scene settings) (.ofFixture fixture)
      (fixture.boxes.map fun id => (id, false)) (fun _ => []) (fun _ => [])
      (fixture.bench reading) claimed.bindLinks := { suits.mirrored reading selectors with }
  have offsetEq : claimed.serverOffset? = ZoneGap.readServerOffset? fixture.serverOffset :=
    serverOffset?_ofDocument fixture reading selectors
  rw [offsetEq]
  refine ⟨rfl, rfl, rfl, rfl, ?_, _, _, _, _, mirrored.record _⟩
  intro kind
  cases kind <;> exact .nil

/-- A boot of the document reports what the start of the session reports, and leaves a page
that mirrors the page in memory. -/
theorem exists_booted (chosen : StartSettings.ofChoices choices = .ok start)
    (suits : fixture.Suits start.settings) {reading : BrowserReading}
    (selectors : SelectorReader) {report : StartReport} {running : PageSession}
    (started : Session.start.run (fixture.session start.settings reading) = .ok report running) :
    let found : BootReport := ⟨running.session.gap.seconds, report⟩
    ∃ booted, (Browser.ofDocument fixture.document reading selectors).perform (.boot choices) =
        (.report found, booted) ∧
      { fixture.scene start.settings with object := some (.script, found) }.Paired running
        booted := by
  intro found
  let opened := Browser.ofDocument fixture.document reading selectors
  let claimed : Browser := { opened with verbosity := start.verbosity, guard := ⟨true⟩ }
  have plain : (fixture.scene start.settings).settings.Plain := suits.plain chosen
  have outcomes := (Scene.bridge _ plain).start _ _
    (suits.sessions reading selectors start.verbosity)
  rw [started] at outcomes
  generalize ended : Session.start.run (Session.create claimed.bindLinks start.settings
    claimed.serverOffset?) = outcome at outcomes
  cases outcomes with
  | @answered _ _ other same =>
      let booted : Browser :=
        { other.page with slot := .resting other.session, object := some (.script, found) }
      have gapEq : other.session.gap.seconds = running.session.gap.seconds := by
        rw [same.gap_eq]
      have claimEq : opened.claim start.verbosity = (.ok (), claimed) := rfl
      have startedEq : claimed.startSession start.settings .script = (.ok found, booted) := by
        rw [Browser.startSession, ended]
        simp only [gapEq]
        rfl
      refine ⟨booted, ?_, other.session, rfl, ?_⟩
      · rw [Browser.perform, Browser.respond, Browser.bootScript, chosen]
        simp only
        rw [Browser.boot, claimEq]
        simp only
        rw [startedEq]
        rfl
      · obtain ⟨base, boxes, spans, blocks, mirrored⟩ := same.pages
        exact { same with
          pages := ⟨base, boxes, spans, blocks, { mirrored with object_eq := rfl }⟩ }

/-- Started and booted with the same settings, a described page acts alike in memory and
in a browser, however that reads selectors. -/
theorem actsAlike (chosen : StartSettings.ofChoices choices = .ok start)
    (suits : fixture.Suits start.settings) (reading : BrowserReading)
    (selectors : SelectorReader) :
    fixture.ActsAlike (AlikeViews start.settings) AlikeFaults choices start.settings reading
      selectors := by
  have plain := suits.plain chosen
  obtain ⟨report, running, started⟩ := exists_started fixture start.settings reading
  obtain ⟨booted, boots, paired⟩ := exists_booted chosen suits selectors started
  refine ⟨report, running, booted, started, boots, ?_⟩
  intro calls
  obtain ⟨answers, base, boxes, spans, blocks, mirrored⟩ := paired.attendAll plain rfl rfl calls
  refine ⟨answers, mirrored.view_eq plain, fun apart => ?_⟩
  rw [← mirrored.once_view apart]
  exact mirrored.view_eq plain

/-! ### Pages to look at -/

/-- A page with a day and an hour in one place, two hours ahead of its server, and a box
for the day. -/
def boxedMeeting : PageFixture :=
  { PageSession.meetingFixture with serverOffset := some "-7200", boxes := ["calendarbox0"] }

theorem suits_boxedMeeting : boxedMeeting.Suits .standard where
  type_mem := by decide
  classes_tokens := by decide
  id_ne := by
    have apart : ∀ described ∈ boxedMeeting.fields,
        described.id.toList.take 11 ≠ "calendarbox".toList := by
      decide
    intro described member
    exact Settings.ne_boxId (apart described member)
  shortcutsClass := by decide
  noteClass := by decide

theorem actsAlike_boxedMeeting :
    let start : StartSettings := {}
    StartSettings.ofChoices none = .ok start ∧ boxedMeeting.Suits start.settings ∧
      boxedMeeting.ActsAlike (AlikeViews start.settings) AlikeFaults none start.settings
        ⟨none, none⟩ .plain :=
  ⟨rfl, suits_boxedMeeting, actsAlike rfl suits_boxedMeeting ⟨none, none⟩ .plain⟩

/-- A page with a day, two hours ahead of its server, and without a box for the day. -/
def agenda : PageFixture where
  serverOffset := some "-7200"
  fields := [{ id := "day", type := "date", classes := ["vDateField"] }]

def blankAgenda : PageFixture :=
  { agenda with fields := [{ id := "day", type := "date", classes := ["vDateField late"] }] }

/-- The choice of a script that notes are marked with the class that they have anyway. -/
def helpChoices : Option Json :=
  some (.ofMembers [("timezone_warning_class", .string "help")])

def helpStart : StartSettings where
  settings := { noteClass := "help" }

theorem suits_agenda : agenda.Suits helpStart.settings where
  type_mem := by decide
  classes_tokens := by decide
  id_ne := by
    have apart : ∀ described ∈ agenda.fields,
        described.id.toList.take 11 ≠ "calendarbox".toList := by
      decide
    intro described member
    exact Settings.ne_boxId (apart described member)
  shortcutsClass := by decide
  noteClass := by decide

/-- What a start of a session reports, and the session after it. -/
def started? (fixture : PageFixture) (settings : Settings) (reading : BrowserReading) :
    Option (StartReport × PageSession) :=
  match Session.start.run (fixture.session settings reading) with
  | .ok report running => some (report, running)
  | .error _ _ => none

theorem started?_eq_some {settings : Settings} {reading : BrowserReading} {report : StartReport}
    {running : PageSession}
    (started : Session.start.run (fixture.session settings reading) = .ok report running) :
    fixture.started? settings reading = some (report, running) := by
  rw [started?, started]

theorem agenda_shows_twice (faults : Fault → Fault → Prop) :
    ¬ agenda.ActsAlike (fun page document => document = page) faults helpChoices
      helpStart.settings ⟨none, none⟩ .plain := by
  rintro ⟨report, running, booted, started, boots, alike⟩
  let shown (classes : List String) : List (List ShownNode) :=
    [[.input "day" "date" "" false,
      .link "datetimeshortcuts" "Today" (some (.calendarDay 0 0)),
      .note classes "Note: You are 2 hours ahead of server time."]]
  have onPage : (agenda.started? helpStart.settings ⟨none, none⟩).map
      (fun started => started.2.page.page.view.containers) = some (shown ["help", "help"]) := by
    decide +kernel
  have inDocument : ((Browser.ofDocument agenda.document ⟨none, none⟩).perform
      (.boot helpChoices)).2.view.containers = shown ["help"] := by
    decide +kernel
  rw [started?_eq_some started] at onPage
  rw [boots] at inDocument
  have same : booted.view.containers = running.page.page.view.containers :=
    congrArg PageView.containers (alike []).2
  have shownEq := (inDocument.symm.trans same).trans (Option.some.inj onPage)
  revert shownEq
  decide

/-- The page and the document name a box that is missing in words of their own. -/
theorem agenda_words_apart (views : PageView → PageView → Prop) :
    ¬ agenda.ActsAlike views (fun fault other => other.message = fault.message) helpChoices
      helpStart.settings ⟨none, none⟩ .plain := by
  rintro ⟨report, running, booted, started, boots, alike⟩
  let call : SharedCall := .call (.pick 0 2024 1 1)
  have onPage : (agenda.started? helpStart.settings ⟨none, none⟩).map
      (fun started => (PageSession.attend started.2 call).1) =
        some (some (.error (.page (.noBox "calendarbox0")))) := by
    decide +kernel
  have inDocument : (((Browser.ofDocument agenda.document ⟨none, none⟩).perform
      (.boot helpChoices)).2.attend call).1 =
        some (.error (.failed (.page (.noElement "calendarbox0")))) := by
    decide +kernel
  rw [started?_eq_some started, Option.map_some, Option.some_inj] at onPage
  rw [boots] at inDocument
  simp only at onPage inDocument
  have answers := (alike [call]).1
  rw [PageSession.attendAll, Browser.attendAll, attendAll_singleton, attendAll_singleton, onPage,
    inDocument] at answers
  cases answers with
  | cons same _ =>
      cases same with
      | some same =>
          cases same with
          | failed worded =>
              revert worded
              decide

/-- A class with a blank is another one in a document. -/
theorem blankAgenda_reports_apart (views : PageView → PageView → Prop)
    (faults : Fault → Fault → Prop) :
    ¬ blankAgenda.ActsAlike views faults helpChoices helpStart.settings ⟨none, none⟩ .plain := by
  rintro ⟨report, running, booted, started, boots, -⟩
  have onPage : (blankAgenda.started? helpStart.settings ⟨none, none⟩).map Prod.fst =
      some ⟨1, 0, 0, 0⟩ := by
    decide +kernel
  have inDocument : ((Browser.ofDocument blankAgenda.document ⟨none, none⟩).perform
      (.boot helpChoices)).1 = .report ⟨7200, ⟨1, 0, 1, 1⟩⟩ := by
    decide +kernel
  rw [started?_eq_some started, Option.map_some, Option.some_inj] at onPage
  simp only at onPage
  rw [boots, onPage] at inDocument
  have attachedEq : 0 = 1 := congrArg (fun found : BootReport => found.report.calendarInputs)
    (PageAnswer.report.inj inDocument)
  cases attachedEq

/-- A page and a document that suit each other need not be the same to the letter: neither
in what they show nor in what they answer, and still less when a class has a blank. -/
theorem agenda_differs :
    StartSettings.ofChoices helpChoices = .ok helpStart ∧ agenda.Suits helpStart.settings ∧
      ¬ agenda.ActsAlike (fun page document => document = page)
        (fun fault other => other.message = fault.message) helpChoices helpStart.settings
        ⟨none, none⟩ .plain ∧
      ¬ agenda.ActsAlike (fun page document => document = page) AlikeFaults helpChoices
        helpStart.settings ⟨none, none⟩ .plain ∧
      ¬ agenda.ActsAlike (AlikeViews helpStart.settings)
        (fun fault other => other.message = fault.message) helpChoices helpStart.settings
        ⟨none, none⟩ .plain ∧
      ¬ blankAgenda.ActsAlike (AlikeViews helpStart.settings) AlikeFaults helpChoices
        helpStart.settings ⟨none, none⟩ .plain :=
  ⟨by decide +kernel, suits_agenda, agenda_shows_twice _, agenda_shows_twice _,
    agenda_words_apart _, blankAgenda_reports_apart _ _⟩

end PageFixture

end QuickFill
