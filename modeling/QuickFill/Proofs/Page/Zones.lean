import QuickFill.Proofs.Page.Links
import QuickFill.Proofs.Page.Registered
import QuickFill.Proofs.Template.Plain

/-!
# One page in two zones

Two clocks tell the same instants, each in a zone of its own, and a session runs beside
each of them on one page.  The sessions put different notes on the page, but they register
the same inputs, and their links show one and the same time: that of the server.
-/

namespace QuickFill

/-- What a clock in a zone that is so far east of universal time reads at an instant. -/
def Instant.seenFrom (reading : Instant) (offset : Int) : Instant :=
  { reading with offset := offset }

def Workbench.seenFrom (bench : Workbench) (offset : Int) : Workbench :=
  bench.setClock (bench.clock.seenFrom offset)

namespace PageCall

def seenFrom (offset : Int) : PageCall → PageCall
  | .setClock reading => .setClock (reading.seenFrom offset)
  | call => call

/-- What the clock of a page reads after a call. -/
def reading (before : Instant) : PageCall → Instant
  | .setClock reading => reading
  | _ => before

end PageCall

/-- Whether the template of a clock link, if it is one, is plain. -/
def QuickLink.isPlain : QuickLink → Bool
  | .clockNow _ template => Template.isPlain template.toList
  | .calendarDay _ _ => true

theorem Session.called_seenFrom (session : Session Nat) (fields : List (Field Nat))
    (offset : Int) (call : PageCall) :
    session.called fields (call.seenFrom offset) = session.called fields call := by
  cases call <;> rfl

namespace PageSession

open Session

variable {running : PageSession}

/-! ### What the clock reads -/

theorem clock_changePage {bench changed : Workbench} {outcome : Except PageFault Page}
    (accepted : bench.changePage outcome = .ok changed) : changed.clock = bench.clock := by
  cases outcome with
  | error cause => cases accepted
  | ok page =>
      obtain rfl := Except.ok.inj accepted
      rfl

theorem fillClosed_clock (reading : Instant) :
    FillClosed fun running : PageSession => running.page.clock = reading where
  logged _ same := same
  written same accepted := (clock_changePage accepted).trans same
  focused same accepted := (clock_changePage accepted).trans same
  hidden same accepted := (clock_changePage accepted).trans same

theorem attachClosed_clock (reading : Instant) :
    AttachClosed fun running : PageSession => running.page.clock = reading where
  logged _ same := same
  begun same := same
  registered _ _ same := same
  linked same accepted := (clock_changePage accepted).trans same
  noted same accepted := (clock_changePage accepted).trans same

/-- Only setting the clock changes what it reads. -/
theorem clock_after (running : PageSession) (call : PageCall) :
    (running.after call).page.clock = call.reading running.page.clock := by
  have attachClosed := attachClosed_clock running.page.clock
  cases call with
  | start => exact attachClosed.start running rfl
  | attachClock input template => exact attachClosed.attach .clock "Now" _ input running rfl
  | attachCalendar input => exact attachClosed.attach .calendar "Today" _ input running rfl
  | notify input => exact attachClosed.notify input running rfl
  | serve request => exact (fillClosed_clock running.page.clock).serve request running rfl
  | setClock clock => rfl

theorem clock_run (running : PageSession) (calls : List PageCall) :
    (calls.foldl PageSession.after running).page.clock =
      calls.foldl PageCall.reading running.page.clock := by
  induction calls generalizing running with
  | nil => rfl
  | cons call rest ih => rw [List.foldl_cons, List.foldl_cons, ih, clock_after]

theorem reading_seenFrom (calls : List PageCall) (reading : Instant) (offset : Int) :
    (calls.map (PageCall.seenFrom offset)).foldl PageCall.reading (reading.seenFrom offset) =
      (calls.foldl PageCall.reading reading).seenFrom offset := by
  induction calls generalizing reading with
  | nil => rfl
  | cons call rest ih =>
      rw [List.map_cons, List.foldl_cons, List.foldl_cons, ← ih]
      cases call <;> rfl

/-! ### The time of the server -/

/-- What the wall clock of the server shows at an instant. -/
def serverMoment (reading : Instant) (serverOffset : Int) : Moment :=
  .ofWall (reading.seenFrom serverOffset).date (reading.seenFrom serverOffset).time

/-- The text of a link for the wall clock of the server, in an input with some step. -/
def serverText (settings : Settings) (reading : Instant) (serverOffset : Int) (step : Nat) :
    QuickLink → Except Fault String
  | .clockNow _ template => fill (clockTemplate template step) (serverMoment reading serverOffset)
  | .calendarDay _ days =>
    if farthestDays < days.natAbs then .error (.dayOffsetOutOfRange days)
    else
      match (serverMoment reading serverOffset).date.addDays? days with
      | some date => fill settings.dateTemplate (.ofDate date)
      | none => .error (.dayOffsetOutOfRange days)

variable {reading : Instant} {offset serverOffset : Int} {link : QuickLink}

/-- A session of which the gap was taken in one zone and whose clock is read there. -/
structure InZone (reading : Instant) (offset serverOffset : Int) (running : PageSession) :
    Prop where
  gap_eq : running.session.gap = .between offset (some serverOffset)
  clock_eq : running.page.clock = reading.seenFrom offset

/-- The gap that was taken in a zone cancels that zone. -/
theorem InZone.serverNow_eq (inZone : InZone reading offset serverOffset running)
    (exact : clampInt32 (offset - serverOffset) = offset - serverOffset)
    (noLeap : reading.nano < nanosPerSecond) :
    serverNow running = .error .clockOutOfRange ∨
      ∃ instant, serverNow running = .ok instant ∧
        instant.date = (reading.seenFrom serverOffset).date ∧
          instant.time = (reading.seenFrom serverOffset).time := by
  let moved : Instant := ⟨reading.second + -(offset - serverOffset), reading.nano, offset⟩
  have shifted : (reading.seenFrom offset).addSeconds (-(offset - serverOffset)) = moved := by
    rw [Instant.addSeconds]
    exact if_pos (Or.inr noLeap)
  have wallEq : moved.wallSecond = (reading.seenFrom serverOffset).wallSecond := by
    simp only [Instant.wallSecond, Instant.seenFrom, moved]
    omega
  have clockEq : Environment.clock running.page = reading.seenFrom offset := inZone.clock_eq
  rw [serverNow, inZone.gap_eq, clockEq, ZoneGap.between, ZoneGap.serverTime?, if_pos rfl,
    ZoneGap.difference, exact, Instant.addSeconds?, shifted]
  by_cases inRange : moved.InRange
  · rw [if_pos inRange]
    refine Or.inr ⟨moved, rfl, ?_, ?_⟩
    · rw [Instant.date, Instant.date, wallEq]
    · rw [Instant.time, Instant.time, wallEq]
      rfl
  · rw [if_neg inRange]
    exact Or.inl rfl

/-- In every zone the text of a link is that for the wall clock of the server. -/
theorem InZone.requestText_eq (inZone : InZone reading offset serverOffset running)
    (exact : clampInt32 (offset - serverOffset) = offset - serverOffset)
    (noLeap : reading.nano < nanosPerSecond) (plain : link.isPlain = true) (input : Nat) :
    requestText running input (.follow link) = .error .clockOutOfRange ∨
      requestText running input (.follow link) = serverText running.session.settings reading
        serverOffset (stepOf running input) link := by
  have now := inZone.serverNow_eq exact noLeap
  cases link with
  | clockNow handle template =>
      simp only [requestText, clockText, clockMoment, serverText]
      rcases now with outOfRange | ⟨instant, found, dateEq, timeEq⟩
      · rw [outOfRange]
        exact Or.inl rfl
      · rw [found]
        have shown : Template.render? (clockTemplate template (stepOf running input))
            (.ofInstant instant) = Template.render? (clockTemplate template (stepOf running input))
              (serverMoment reading serverOffset) :=
          Template.render?_congr (Template.isPlain_clockTemplate plain _) dateEq
            (congrArg some timeEq)
        simp only [Except.map, bind, Except.bind, fill, shown]
        exact Or.inr trivial
  | calendarDay handle days =>
      simp only [requestText, dayText, serverDay, serverText]
      by_cases far : farthestDays < days.natAbs
      · rw [if_pos far, if_pos far]
        exact Or.inr rfl
      · rw [if_neg far, if_neg far, serverToday]
        rcases now with outOfRange | ⟨instant, found, dateEq, -⟩
        · rw [outOfRange]
          exact Or.inl rfl
        · rw [found]
          simp only [bind, Except.bind, dateEq]
          by_cases inRange : (reading.seenFrom serverOffset).date.InRange
          · rw [if_pos inRange]
            simp only [serverMoment, Moment.ofWall]
            cases (reading.seenFrom serverOffset).date.addDays? days <;> exact Or.inr rfl
          · rw [if_neg inRange]
            exact Or.inl rfl

/-- A clock link with a plain template always has a text. -/
theorem exists_serverText {handle : Nat} {template : String}
    (plain : Template.isPlain template.toList = true) (settings : Settings) (reading : Instant)
    (serverOffset : Int) (step : Nat) :
    ∃ text, serverText settings reading serverOffset step (.clockNow handle template) =
      .ok text := by
  have timed : (serverMoment reading serverOffset).time.isSome = true := rfl
  obtain ⟨text, rendered⟩ := Option.isSome_iff_exists.mp
    (Template.render?_isSome (Template.isPlain_clockTemplate plain step) timed)
  exact ⟨text, by rw [serverText, fill, rendered]⟩

/-- What a click on a link is answered with. -/
def linkAnswer (link : QuickLink) (running : PageSession) : Except Fault String :=
  match (Session.follow link).run running with
  | .ok text _ => .ok text
  | .error fault _ => .error fault

/-- A link is answered with its text when its input is on the page. -/
theorem linkAnswer_eq (link : QuickLink) (running : PageSession) :
    linkAnswer link running =
      match running.session.registry.resolve link.kind link.handle with
      | .error fault => .error fault
      | .ok input =>
        match requestText running input (.follow link) with
        | .error fault => .error fault
        | .ok text =>
          if input < running.page.page.inputs.length then .ok text
          else .error (.page (.noInput input)) := by
  rw [linkAnswer, run_follow_eq]
  cases running.session.registry.resolve link.kind link.handle with
  | error fault => rfl
  | ok input =>
      simp only
      cases requestText running input (.follow link) with
      | error fault => rfl
      | ok text =>
          by_cases onPage : input < running.page.page.inputs.length
          · simp only [if_pos onPage]
          · simp only [if_neg onPage]

/-- A link that is answered with a text stands for an input of the page. -/
theorem exists_input_of_answer {running : PageSession} {text : String}
    (answered : linkAnswer link running = .ok text) :
    ∃ input, running.session.registry.resolve link.kind link.handle = .ok input ∧
      input < running.page.page.inputs.length := by
  rw [linkAnswer_eq] at answered
  split at answered
  · cases answered
  · next input resolved =>
    split at answered
    · cases answered
    · split at answered
      · next onPage => exact ⟨input, resolved, onPage⟩
      · cases answered

/-- What is written is what was answered. -/
theorem value?_of_answer {running : PageSession} {input : Nat} {text : String}
    (resolved : running.session.registry.resolve link.kind link.handle = .ok input)
    (onPage : input < running.page.page.inputs.length)
    (answered : linkAnswer link running = .ok text) :
    (running.after (.serve (.follow link))).page.page.value? input = some text := by
  have followed := run_follow resolved onPage
  rw [linkAnswer] at answered
  cases outcome : (Session.follow link).run running with
  | error fault ended =>
      rw [outcome] at answered
      cases answered
  | ok shown ended =>
      rw [outcome] at answered followed
      obtain rfl := Except.ok.inj answered
      have served : running.after (.serve (.follow link)) = ended := final_eq_of_ok outcome
      rw [served, followed]
      exact Page.value?_modifyInput_self onPage shown

/-! ### Two zones -/

/-- The session of a page in a zone, after some calls. -/
def inZone (bench : Workbench) (settings : Settings) (serverOffset : Int) (calls : List PageCall)
    (offset : Int) : PageSession :=
  (calls.map (PageCall.seenFrom offset)).foldl PageSession.after
    (Session.create (bench.seenFrom offset) settings (some serverOffset))

/-- The session of a page in any zone, but for its gap. -/
def zoneless (bench : Workbench) (settings : Settings) (calls : List PageCall) : Session Nat :=
  calls.foldl (Session.called (Workbench.fields bench.page))
    { settings := settings, gap := .unknown }

variable {bench : Workbench}

theorem noted_inZone (reachable : bench.page.Reachable) (settings : Settings)
    (serverOffset : Int) (calls : List PageCall) (offset : Int) :
    ∃ base links notes,
      Noted (Session.create (bench.seenFrom offset) settings (some serverOffset))
        (inZone bench settings serverOffset calls offset) base links notes := by
  let created : PageSession := Session.create (bench.seenFrom offset) settings (some serverOffset)
  have noted : Noted created created bench.page (fun _ => []) (fun _ => []) :=
    noted_self reachable.wellFormed
  exact noted.run (calls.map (PageCall.seenFrom offset))

theorem session_inZone (reachable : bench.page.Reachable) (settings : Settings)
    (serverOffset : Int) (calls : List PageCall) (offset : Int) :
    (inZone bench settings serverOffset calls offset).session =
      (zoneless bench settings calls).withGap (.between offset (some serverOffset)) := by
  have foldEq (session : Session Nat) :
      (calls.map (PageCall.seenFrom offset)).foldl (Session.called (Workbench.fields bench.page))
          (session.withGap (.between offset (some serverOffset))) =
        (calls.foldl (Session.called (Workbench.fields bench.page)) session).withGap
          (.between offset (some serverOffset)) := by
    induction calls generalizing session with
    | nil => rfl
    | cons call rest ih =>
        rw [List.map_cons, List.foldl_cons, List.foldl_cons, Session.called_seenFrom,
          Session.called_withGap, ih]
  let created : PageSession := Session.create (bench.seenFrom offset) settings (some serverOffset)
  have noted : Noted created created bench.page (fun _ => []) (fun _ => []) :=
    noted_self reachable.wellFormed
  exact (noted.session_run _).trans (foldEq { settings := settings, gap := .unknown })

theorem registry_inZone (reachable : bench.page.Reachable) (settings : Settings)
    (serverOffset : Int) (calls : List PageCall) (offset : Int) :
    (inZone bench settings serverOffset calls offset).session.registry =
      (zoneless bench settings calls).registry := by
  rw [session_inZone reachable]
  rfl

theorem inZone_spec (reachable : bench.page.Reachable) (settings : Settings)
    (serverOffset : Int) (calls : List PageCall) (offset : Int) :
    InZone (calls.foldl PageCall.reading bench.clock) offset serverOffset
      (inZone bench settings serverOffset calls offset) where
  gap_eq := by
    rw [session_inZone reachable]
    rfl
  clock_eq := (clock_run _ _).trans (reading_seenFrom calls bench.clock offset)

/-- The answer to a click in any zone, as the wall clock of the server gives it. -/
def serverAnswer (bench : Workbench) (settings : Settings) (serverOffset : Int)
    (calls : List PageCall) (link : QuickLink) : Except Fault String :=
  match (zoneless bench settings calls).registry.resolve link.kind link.handle with
  | .error fault => .error fault
  | .ok input =>
    match serverText settings (calls.foldl PageCall.reading bench.clock) serverOffset
        (readStep settings.defaultStep (bench.page.step? input)) link with
    | .error fault => .error fault
    | .ok text =>
      if input < bench.page.inputs.length then .ok text else .error (.page (.noInput input))

/-- A click in a zone is answered as the server has it, unless the clock of that zone
leaves the range of dates when it is moved. -/
theorem linkAnswer_inZone (reachable : bench.page.Reachable) (settings : Settings)
    (calls : List PageCall) (exact : clampInt32 (offset - serverOffset) = offset - serverOffset)
    (noLeap : (calls.foldl PageCall.reading bench.clock).nano < nanosPerSecond)
    (plain : link.isPlain = true)
    (runs : linkAnswer link (inZone bench settings serverOffset calls offset) ≠
      .error .clockOutOfRange) :
    linkAnswer link (inZone bench settings serverOffset calls offset) =
      serverAnswer bench settings serverOffset calls link := by
  obtain ⟨_, _, _, noted⟩ := noted_inZone reachable settings serverOffset calls offset
  have settingsEq : (inZone bench settings serverOffset calls offset).session.settings =
      settings := noted.settings_eq
  have stepEq (input : Nat) : stepOf (inZone bench settings serverOffset calls offset) input =
      readStep settings.defaultStep (bench.page.step? input) := by
    rw [stepOf, settingsEq]
    exact congrArg _ (Page.step?_congr noted.emptied_eq input)
  have lengthEq : (inZone bench settings serverOffset calls offset).page.page.inputs.length =
      bench.page.inputs.length := noted.length_inputs
  have registryEq := registry_inZone reachable settings serverOffset calls offset
  rw [linkAnswer_eq, registryEq, lengthEq] at runs ⊢
  rw [serverAnswer]
  cases resolved : (zoneless bench settings calls).registry.resolve link.kind link.handle with
  | error fault => rfl
  | ok input =>
      rw [resolved] at runs
      simp only at runs ⊢
      rcases (inZone_spec reachable settings serverOffset calls offset).requestText_eq exact noLeap
        plain input with outOfRange | textEq
      · rw [outOfRange] at runs
        exact (runs rfl).elim
      · rw [textEq, stepEq, settingsEq]

/-- How a click is answered in two zones: alike, with the text for the wall clock of the
server, which is then written into one and the same input. -/
structure ShowServerTime (bench : Workbench) (settings : Settings) (serverOffset : Int)
    (reading : Instant) (link : QuickLink) (first second : PageSession) : Prop where
  alike : linkAnswer link second = linkAnswer link first
  text_eq : ∀ input, first.session.registry.resolve link.kind link.handle = .ok input →
    input < bench.page.inputs.length →
      linkAnswer link first = serverText settings reading serverOffset
        (readStep settings.defaultStep (bench.page.step? input)) link
  clock_answers : ∀ handle template input, link = .clockNow handle template →
    first.session.registry.resolve .clock handle = .ok input →
      input < bench.page.inputs.length → ∃ text, linkAnswer link first = .ok text
  written : ∀ text, linkAnswer link first = .ok text → ∃ input,
    first.session.registry.resolve link.kind link.handle = .ok input ∧
      second.session.registry.resolve link.kind link.handle = .ok input ∧
        input < bench.page.inputs.length ∧
          (first.after (.serve (.follow link))).page.page.value? input = some text ∧
            (second.after (.serve (.follow link))).page.page.value? input = some text

/-- Links show the time of the server whatever the zone of the browser is. -/
theorem links_show_serverTime (bench : Workbench) (reachable : bench.page.Reachable)
    (settings : Settings) (serverOffset : Int) (calls : List PageCall) (link : QuickLink)
    (offset other : Int)
    (gapFits : leastInt32 ≤ offset - serverOffset ∧ offset - serverOffset ≤ greatestInt32)
    (otherFits : leastInt32 ≤ other - serverOffset ∧ other - serverOffset ≤ greatestInt32)
    (noLeap : (calls.foldl PageCall.reading bench.clock).nano < nanosPerSecond)
    (plain : link.isPlain = true)
    (runs : linkAnswer link (inZone bench settings serverOffset calls offset) ≠
      .error .clockOutOfRange)
    (otherRuns : linkAnswer link (inZone bench settings serverOffset calls other) ≠
      .error .clockOutOfRange) :
    ShowServerTime bench settings serverOffset (calls.foldl PageCall.reading bench.clock) link
      (inZone bench settings serverOffset calls offset)
      (inZone bench settings serverOffset calls other) := by
  have exact {gap : Int} (fits : leastInt32 ≤ gap ∧ gap ≤ greatestInt32) :
      clampInt32 gap = gap := by
    rw [clampInt32, min_eq_right fits.2, max_eq_right fits.1]
  have answerEq := linkAnswer_inZone reachable settings calls (exact gapFits) noLeap plain runs
  have otherEq :=
    linkAnswer_inZone reachable settings calls (exact otherFits) noLeap plain otherRuns
  have registryEq := registry_inZone reachable settings serverOffset calls offset
  have sameRegistry := (registry_inZone reachable settings serverOffset calls other).trans
    registryEq.symm
  obtain ⟨_, _, _, noted⟩ := noted_inZone reachable settings serverOffset calls offset
  obtain ⟨_, _, _, otherNoted⟩ := noted_inZone reachable settings serverOffset calls other
  have text_eq (input : Nat)
      (resolved : (inZone bench settings serverOffset calls offset).session.registry.resolve
        link.kind link.handle = .ok input) (onPage : input < bench.page.inputs.length) :
      linkAnswer link (inZone bench settings serverOffset calls offset) =
        serverText settings (calls.foldl PageCall.reading bench.clock) serverOffset
          (readStep settings.defaultStep (bench.page.step? input)) link := by
    rw [registryEq] at resolved
    rw [answerEq, serverAnswer, resolved]
    simp only [if_pos onPage]
    split <;> next found => rw [found]
  refine ⟨otherEq.trans answerEq.symm, text_eq, ?_, ?_⟩
  · rintro handle template input rfl resolved onPage
    rw [text_eq input resolved onPage]
    exact exists_serverText plain settings _ serverOffset _
  · intro text answered
    obtain ⟨input, resolved, onPage⟩ := exists_input_of_answer answered
    have otherResolved : (inZone bench settings serverOffset calls other).session.registry.resolve
        link.kind link.handle = .ok input := sameRegistry ▸ resolved
    have otherOnPage : input <
        (inZone bench settings serverOffset calls other).page.page.inputs.length := by
      rw [otherNoted.length_inputs]
      exact noted.length_inputs ▸ onPage
    have otherAnswered := (otherEq.trans answerEq.symm).trans answered
    exact ⟨input, resolved, otherResolved, noted.length_inputs ▸ onPage,
      value?_of_answer resolved onPage answered,
      value?_of_answer otherResolved otherOnPage otherAnswered⟩

/-- The page of the meeting half an hour before midnight of universal time, at the end of
a February with 29 days. -/
def lateMeeting : Workbench where
  page := .ofFixture meetingFixture
  clock := ⟨1709249400, 0, 0⟩
  translator := .english

theorem links_show_serverTime_lateMeeting :
    linkAnswer (.clockNow 0 "%Y-%m-%d %H:%M") (inZone lateMeeting .standard 0 [.start] 3600) =
        .ok "2024-02-29 23:30" ∧
      ShowServerTime lateMeeting .standard 0 ⟨1709249400, 0, 0⟩ (.clockNow 0 "%Y-%m-%d %H:%M")
        (inZone lateMeeting .standard 0 [.start] 3600)
        (inZone lateMeeting .standard 0 [.start] (-36000)) := by
  have first : linkAnswer (.clockNow 0 "%Y-%m-%d %H:%M")
      (inZone lateMeeting .standard 0 [.start] 3600) = .ok "2024-02-29 23:30" := by decide +kernel
  have second : linkAnswer (.clockNow 0 "%Y-%m-%d %H:%M")
      (inZone lateMeeting .standard 0 [.start] (-36000)) = .ok "2024-02-29 23:30" := by
    decide +kernel
  refine ⟨first, links_show_serverTime lateMeeting (.described meetingFixture) .standard 0 [.start]
    _ 3600 (-36000) (by decide) (by decide) (by decide) (by decide +kernel) ?_ ?_⟩
  · rw [first]
    exact nofun
  · rw [second]
    exact nofun

end PageSession

end QuickFill
