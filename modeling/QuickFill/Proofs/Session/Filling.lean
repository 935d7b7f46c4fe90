import QuickFill.Proofs.Session.Action

/-!
# Filling inputs in one way

All requests that fill an input do it in one way: they find the input of a handle,
compute a text from what they find, write it and move the focus there, and then end
in a way of their own.  The text is computed before the page is touched, so it is a
function of the session and the page.
-/

namespace QuickFill

/-- The input that a request fills, by its kind and handle; none when it only asks
for the id of a box. -/
def SessionRequest.target? : SessionRequest → Option (LinkKind × Nat)
  | .clock handle _ _ => some (.clock, handle)
  | .today handle _ => some (.calendar, handle)
  | .pick handle _ _ _ => some (.calendar, handle)
  | .boxId _ => none
  | .follow link => some (link.kind, link.handle)

/-- What is logged when a link has filled its input. -/
def QuickLink.filled (link : QuickLink) (step : Nat) : LogEvent :=
  match link with
  | .clockNow handle _ => .clockFilled handle step
  | .calendarDay handle days => .calendarFilled handle days

namespace Session

variable {σ ι : Type}

/-- The outcome of a computation that leaves the session and its page alone. -/
def answered {α : Type} (running : Running σ ι) :
    Except Fault α → EStateM.Result Fault (Running σ ι) α
  | .ok value => .ok value running
  | .error fault => .error fault running

@[simp]
theorem run_yields {α : Type} [Environment σ] [Fillable σ ι] (outcome : Except Fault α)
    (running : Running σ ι) : (yields outcome).run running = answered running outcome := by
  cases outcome <;> rfl

variable [Environment σ]

@[simp]
theorem run_resolve (kind : LinkKind) (handle : Nat) (running : Running σ ι) :
    (resolve kind handle : Action σ ι ι).run running =
      match running.session.registry.resolve kind handle with
      | .ok input => .ok input running
      | .error fault => .error fault (running.logged (.handleUnknown kind handle)) := by
  simp only [resolve, EStateM.run_bind, EStateM.run_get]
  cases running.session.registry.resolve kind handle <;> rfl

/-! ### Texts -/

def serverNow (running : Running σ ι) : Except Fault Instant :=
  match running.session.gap.serverTime? (Environment.clock running.page) with
  | some instant => .ok instant
  | none => .error .clockOutOfRange

def serverToday (running : Running σ ι) : Except Fault Date := do
  let date := (← serverNow running).date
  if date.InRange then .ok date else .error .clockOutOfRange

def clockMoment (running : Running σ ι) : ClockValue → Except Fault Moment
  | .now => (serverNow running).map .ofInstant
  | .hour hour =>
    match Moment.ofHour? hour with
    | some moment => .ok moment
    | none => .error (.invalidHour hour)

def serverDay (running : Running σ ι) (days : Int) : Except Fault Date :=
  if farthestDays < days.natAbs then .error (.dayOffsetOutOfRange days)
  else do
    match (← serverToday running).addDays? days with
    | some date => .ok date
    | none => .error (.dayOffsetOutOfRange days)

def dayText (running : Running σ ι) (days : Int) : Except Fault String := do
  fill running.session.settings.dateTemplate (.ofDate (← serverDay running days))

def pickText (running : Running σ ι) (year : Int) (month day : Nat) : Except Fault String :=
  match Date.ofSupported? year month day with
  | none => .error (.invalidDate year month day)
  | some date => fill (Environment.translator running.page).dateTemplate (.ofWall date ⟨0, 0⟩)

@[simp]
theorem run_now (running : Running σ ι) :
    (now : Action σ ι Instant).run running = answered running (serverNow running) := by
  simp only [now, EStateM.run_bind, EStateM.run_get, serverNow]
  cases running.session.gap.serverTime? (Environment.clock running.page) <;> rfl

@[simp]
theorem run_today (running : Running σ ι) :
    (today : Action σ ι Date).run running = answered running (serverToday running) := by
  simp only [today, EStateM.run_bind, run_now, serverToday]
  cases serverNow running with
  | error fault => rfl
  | ok instant =>
      by_cases inRange : instant.date.InRange
      · simp [answered, bind, Except.bind, inRange]
      · simp [answered, bind, Except.bind, inRange]

@[simp]
theorem run_momentOf (value : ClockValue) (running : Running σ ι) :
    (momentOf value : Action σ ι Moment).run running =
      answered running (clockMoment running value) := by
  cases value with
  | now =>
      simp only [momentOf, EStateM.run_bind, run_now, clockMoment]
      cases serverNow running <;> rfl
  | hour hour =>
      simp only [momentOf, clockMoment]
      cases Moment.ofHour? hour <;> rfl

@[simp]
theorem run_dayFromToday (days : Int) (running : Running σ ι) :
    (dayFromToday days : Action σ ι Date).run running =
      answered running (serverDay running days) := by
  by_cases far : farthestDays < days.natAbs
  · simp [dayFromToday, serverDay, far, answered]
  · simp only [dayFromToday, serverDay, if_neg far, EStateM.run_bind, run_today]
    cases serverToday running with
    | error fault => rfl
    | ok date =>
        simp only [answered, bind, Except.bind]
        cases date.addDays? days <;> rfl

variable [Fillable σ ι]

def stepOf (running : Running σ ι) (input : ι) : Nat :=
  readStep running.session.settings.defaultStep (Fillable.step? running.page input)

/-- The text for a clock value in a template, with the seconds that the step of the
input asks for. -/
def clockText (running : Running σ ι) (input : ι) (value : ClockValue) (template : String) :
    Except Fault String := do
  fill (clockTemplate template (stepOf running input)) (← clockMoment running value)

def requestText (running : Running σ ι) (input : ι) : SessionRequest → Except Fault String
  | .clock _ value template =>
    clockText running input value (template.getD running.session.settings.timeTemplate)
  | .today _ days => dayText running days
  | .pick _ year month day => pickText running year month day
  | .boxId handle => .ok (running.session.settings.boxId handle)
  | .follow (.clockNow _ template) => clockText running input .now template
  | .follow (.calendarDay _ days) => dayText running days

variable {τ κ : Type} [Environment τ] [Fillable τ κ]

/-- A text depends on the session, the time, the translator and the step of the input. -/
theorem requestText_congr {running : Running σ ι} {another : Running τ κ} {input : ι} {other : κ}
    (settingsEq : another.session.settings = running.session.settings)
    (gapEq : another.session.gap = running.session.gap)
    (clockEq : Environment.clock another.page = Environment.clock running.page)
    (translatorEq : Environment.translator another.page = Environment.translator running.page)
    (stepEq : Fillable.step? another.page other = Fillable.step? running.page input)
    (request : SessionRequest) :
    requestText another other request = requestText running input request := by
  have nowEq : serverNow another = serverNow running := by
    rw [serverNow, serverNow, gapEq, clockEq]
  have momentEq (value : ClockValue) : clockMoment another value = clockMoment running value := by
    cases value with
    | now => rw [clockMoment, clockMoment, nowEq]
    | hour hour => rfl
  have timeEq (value : ClockValue) (template : String) :
      clockText another other value template = clockText running input value template := by
    rw [clockText, clockText, stepOf, stepOf, settingsEq, stepEq, momentEq]
  have dayEq (days : Int) : dayText another days = dayText running days := by
    rw [dayText, dayText, serverDay, serverDay, serverToday, serverToday, settingsEq, nowEq]
  cases request with
  | clock handle value template => rw [requestText, requestText, timeEq, settingsEq]
  | today handle days => exact dayEq days
  | pick handle year month day =>
      rw [requestText, requestText, pickText, pickText, translatorEq]
  | boxId handle => rw [requestText, requestText, settingsEq]
  | follow link =>
      cases link with
      | clockNow handle template => exact timeEq .now template
      | calendarDay handle days => exact dayEq days

/-! ### The common way -/

/-- What a request does after its text has been written. -/
def requestEnd (running : Running σ ι) (input : ι) : SessionRequest → Action σ ι Unit
  | .clock handle _ _ | .follow (.clockNow handle _) =>
    log (.clockFilled handle (stepOf running input))
  | .today handle days | .follow (.calendarDay handle days) => log (.calendarFilled handle days)
  | .pick handle _ _ _ => do
    change fun page => Fillable.hide page (running.session.settings.boxId handle)
    log (.datePicked handle)
  | .boxId _ => pure ()

theorem requestEnd_follow (running : Running σ ι) (input : ι) (link : QuickLink) :
    requestEnd running input (.follow link) = log (link.filled (stepOf running input)) := by
  cases link <;> rfl

def fillInput (kind : LinkKind) (handle : Nat) (request : SessionRequest) : Action σ ι String := do
  let input ← resolve kind handle
  let running ← get
  let text ← yields (requestText running input request)
  writeAndFocus input text
  requestEnd running input request
  return text

theorem run_fillClock (handle : Nat) (value : ClockValue) (template : String)
    (request : SessionRequest) {running : Running σ ι}
    (textEq : ∀ input, requestText running input request =
      clockText running input value template)
    (endEq : ∀ input, requestEnd running input request =
      log (.clockFilled handle (stepOf running input))) :
    (fillClock handle value template).run running =
      (fillInput .clock handle request).run running := by
  simp only [fillClock, fillInput, EStateM.run_bind, run_resolve]
  cases running.session.registry.resolve .clock handle with
  | error fault => rfl
  | ok input =>
      simp only [EStateM.run_get, run_momentOf, textEq, endEq, run_yields, clockText, stepOf]
      cases clockMoment running value <;> rfl

theorem run_fillCalendar (handle : Nat) (days : Int) (request : SessionRequest)
    {running : Running σ ι}
    (textEq : ∀ input, requestText running input request = dayText running days)
    (endEq : ∀ input, requestEnd running input request = log (.calendarFilled handle days)) :
    (fillCalendar handle days).run running =
      (fillInput .calendar handle request).run running := by
  simp only [fillCalendar, fillInput, EStateM.run_bind, run_resolve]
  cases running.session.registry.resolve .calendar handle with
  | error fault => rfl
  | ok input =>
      simp only [EStateM.run_get, run_dayFromToday, textEq, endEq, run_yields, dayText]
      cases serverDay running days <;> rfl

theorem run_pickDate (handle : Nat) (year : Int) (month day : Nat) (running : Running σ ι) :
    (pickDate handle year month day).run running =
      (fillInput .calendar handle (.pick handle year month day)).run running := by
  simp only [pickDate, fillInput, requestEnd, bind_assoc]
  simp only [EStateM.run_bind, run_resolve]
  cases running.session.registry.resolve .calendar handle with
  | error fault => rfl
  | ok input =>
      simp only [EStateM.run_get, run_yields, requestText, pickText]
      cases Date.ofSupported? year month day with
      | none => rfl
      | some date =>
          simp only [EStateM.run_bind, EStateM.run_get, run_yields]

/-- Every request that fills an input does it in the common way. -/
theorem run_serve {request : SessionRequest} {kind : LinkKind} {handle : Nat}
    (target : request.target? = some (kind, handle)) (running : Running σ ι) :
    (serve request).run running = (fillInput kind handle request).run running := by
  cases request with
  | clock handle value template =>
      obtain ⟨rfl, rfl⟩ := Prod.mk.inj (Option.some.inj target)
      simp only [serve, EStateM.run_bind, EStateM.run_get]
      exact run_fillClock handle value _ (.clock handle value template) (fun _ => rfl) fun _ => rfl
  | today handle days =>
      obtain ⟨rfl, rfl⟩ := Prod.mk.inj (Option.some.inj target)
      exact run_fillCalendar handle days (.today handle days) (fun _ => rfl) fun _ => rfl
  | pick handle year month day =>
      obtain ⟨rfl, rfl⟩ := Prod.mk.inj (Option.some.inj target)
      exact run_pickDate handle year month day running
  | boxId handle => cases target
  | follow link =>
      obtain ⟨rfl, rfl⟩ := Prod.mk.inj (Option.some.inj target)
      cases link with
      | clockNow handle template =>
          exact run_fillClock handle .now template (.follow (.clockNow handle template))
            (fun _ => rfl) fun _ => rfl
      | calendarDay handle days =>
          exact run_fillCalendar handle days (.follow (.calendarDay handle days))
            (fun _ => rfl) fun _ => rfl

/-- A request for the id of a box changes nothing. -/
theorem run_serve_boxId (handle : Nat) (running : Running σ ι) :
    (serve (.boxId handle)).run running = .ok (running.session.settings.boxId handle) running :=
  rfl

/-- The common way, step by step. -/
theorem run_fillInput (kind : LinkKind) (handle : Nat) (request : SessionRequest)
    (running : Running σ ι) :
    (fillInput kind handle request).run running =
      match running.session.registry.resolve kind handle with
      | .error fault => .error fault (running.logged (.handleUnknown kind handle))
      | .ok input =>
        match requestText running input request with
        | .error fault => .error fault running
        | .ok text =>
          match Fillable.write running.page input text with
          | .error cause => .error (.page cause) running
          | .ok written =>
            match Fillable.focus written input with
            | .error cause => .error (.page cause) (running.withPage written)
            | .ok focused =>
              match (requestEnd running input request).run (running.withPage focused) with
              | .error fault ended => .error fault ended
              | .ok () ended => .ok text ended := by
  simp only [fillInput, EStateM.run_bind, run_resolve]
  cases running.session.registry.resolve kind handle with
  | error fault => rfl
  | ok input =>
      simp only [EStateM.run_get, run_yields]
      cases requestText running input request with
      | error fault => rfl
      | ok text =>
          simp only [answered, writeAndFocus, ↓run_change_bind, run_change]
          cases Fillable.write running.page input text with
          | error cause => rfl
          | ok written =>
              simp only [Running.withPage]
              cases Fillable.focus written input with
              | error cause => rfl
              | ok focused =>
                  simp only
                  cases (requestEnd running input request).run _ <;> rfl

end Session

end QuickFill
