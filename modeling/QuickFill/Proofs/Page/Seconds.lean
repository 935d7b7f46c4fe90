import QuickFill.Proofs.Page.Filled
import QuickFill.Proofs.Template.Joined

/-!
# Seconds on the page

An input whose step is no whole number of minutes is filled with seconds, too.  They are
put after what the template says for itself: nothing that it says changes for them, and
what cannot be filled without them cannot be filled with them.
-/

namespace QuickFill

open Session Template

theorem Instant.nano_addSeconds_le (instant : Instant) (seconds : Int) :
    (instant.addSeconds seconds).nano ≤ instant.nano := by
  rw [addSeconds]
  split
  · exact Nat.le_refl _
  · exact Nat.sub_le _ _

theorem ZoneGap.nano_serverTime_le {gap : ZoneGap} {reading server : Instant}
    (moved : gap.serverTime? reading = some server) : server.nano ≤ reading.nano := by
  rw [serverTime?] at moved
  split at moved
  · rw [Instant.addSeconds?] at moved
    split at moved
    · rw [← Option.some.inj moved]
      exact Instant.nano_addSeconds_le reading _
    · cases moved
  · obtain rfl := Option.some.inj moved
    exact Nat.le_refl _

/-- A minute has at most 60 seconds and a leap second. -/
theorem TimeOfDay.secondOfMinute_le {time : TimeOfDay} (readable : time.nano < 2 * nanosPerSecond) :
    time.secondOfMinute ≤ 60 := by
  have leap : time.nano / nanosPerSecond < 2 := Nat.div_lt_of_lt_mul (by omega)
  rw [secondOfMinute]
  omega

namespace PageSession

variable {running : PageSession} {handle input : Nat} {value : ClockValue} {template : String}
  {moment : Moment}

theorem nano_le_of_serverNow {instant : Instant} (nowEq : serverNow running = .ok instant) :
    instant.nano ≤ running.page.clock.nano := by
  rw [serverNow] at nowEq
  split at nowEq
  · next server moved =>
    obtain rfl := Except.ok.inj nowEq
    exact ZoneGap.nano_serverTime_le moved
  · cases nowEq

/-- An operation that fills one input with a text if there is one, and else refuses a template
and changes nothing. -/
def FillsOrRefuses (running : PageSession) (action : Action Workbench Nat String) (input : Nat)
    (template : String) : Option String → Prop
  | some text => FillsWith running action input text
  | none => action.run running = .error (.invalidTemplate template) running

/-- What the template of a clock input shows, seconds included, is all that filling the input
depends on. -/
theorem fillClock_fillsOrRefuses
    (resolved : running.session.registry.resolve .clock handle = .ok input)
    (onPage : input < running.page.page.inputs.length)
    (found : clockMoment running value = .ok moment) (template : String) :
    FillsOrRefuses running (fillClock handle value template) input
      (clockTemplate template (stepOf running input))
      (render? (clockTemplate template (stepOf running input)) moment) := by
  generalize wholeEq : clockTemplate template (stepOf running input) = whole
  have runEq : (fillClock handle value template).run running =
      (fillInput .clock handle (.clock handle value (some template))).run running :=
    run_fillClock handle value template _ (fun _ => rfl) fun _ => rfl
  have filled := fillsWith_of_logged runEq (fun _ => rfl) resolved onPage
  have texted : requestText running input (.clock handle value (some template)) =
      fill whole moment := by
    rw [requestText, Option.getD_some, clockText, found, ← wholeEq]
    rfl
  rw [texted, fill] at filled
  cases shown : render? whole moment <;> simpa only [FillsOrRefuses, shown] using filled

/-- How an input is filled with one time in one template: with what the template alone shows,
and with the seconds of the time after it if the step of the input asks for them. -/
structure KeepsMeaning (running : PageSession) (handle input : Nat) (value : ClockValue)
    (template : String) (moment : Moment) (second : Nat) : Prop where
  minutes : stepOf running input % 60 = 0 →
    FillsOrRefuses running (fillClock handle value template) input template
      (render? template moment)
  seconds : stepOf running input % 60 ≠ 0 →
    FillsOrRefuses running (fillClock handle value template) input (template ++ ":%S")
      ((render? template moment).map (· ++ ":" ++ twoDigits second))
  /-- What the template leaves unfinished, the seconds do not finish. -/
  unfinished : Unfinished template →
    (fillClock handle value template).run running =
      .error (.invalidTemplate (clockTemplate template (stepOf running input))) running

theorem keepsMeaning (resolved : running.session.registry.resolve .clock handle = .ok input)
    (onPage : input < running.page.page.inputs.length)
    (found : clockMoment running value = .ok moment) {time : TimeOfDay}
    (timed : moment.time = some time) (readable : time.nano < 2 * nanosPerSecond)
    (template : String) :
    KeepsMeaning running handle input value template moment time.secondOfMinute := by
  have filled := fillClock_fillsOrRefuses resolved onPage found template
  have short : time.secondOfMinute < 100 :=
    Nat.lt_of_le_of_lt (time.secondOfMinute_le readable) (by decide)
  refine ⟨?_, ?_, ?_⟩
  · intro fullMinutes
    rwa [clockTemplate, if_pos fullMinutes] at filled
  · intro oddSeconds
    rw [clockTemplate, if_neg oddSeconds] at filled
    rwa [render?_seconds template timed short] at filled
  · intro unfinished
    have alone := render?_of_unfinished unfinished moment
    have joined : render? (clockTemplate template (stepOf running input)) moment = none := by
      rw [clockTemplate]
      split
      · exact alone
      · rw [render?_seconds template timed short, alone]
        rfl
    simp only [joined] at filled
    exact filled

/-- The seconds that the step of an input asks for never change what a template means: a clock
link shows what the template shows at the time of the server, or at a full hour, and nothing
but the seconds of that time after it. -/
theorem seconds_keep_meaning (running : PageSession) {handle input : Nat}
    (resolved : running.session.registry.resolve .clock handle = .ok input)
    (onPage : input < running.page.page.inputs.length)
    (readable : running.page.clock.nano < 2 * nanosPerSecond) (template : String) :
    (∀ instant, serverNow running = .ok instant →
      KeepsMeaning running handle input .now template (.ofInstant instant)
        instant.time.secondOfMinute) ∧
      ∀ hour < 24, ∃ moment, Moment.ofHour? hour = some moment ∧
        KeepsMeaning running handle input (.hour hour) template moment 0 := by
  constructor
  · intro instant nowEq
    have found : clockMoment running .now = .ok (.ofInstant instant) := by
      rw [clockMoment, nowEq]
      rfl
    exact keepsMeaning resolved onPage found rfl
      (Nat.lt_of_le_of_lt (nano_le_of_serverNow nowEq) readable) template
  · intro hour early
    obtain ⟨moment, atHour, timed⟩ : ∃ moment, Moment.ofHour? hour = some moment ∧
        moment.time = some ⟨hour * 3600, 0⟩ := by
      rw [Moment.ofHour?, if_pos early]
      exact ⟨_, rfl, rfl⟩
    have found : clockMoment running (.hour hour) = .ok moment := by
      rw [clockMoment, atHour]
    have full : (⟨hour * 3600, 0⟩ : TimeOfDay).secondOfMinute = 0 := by
      simp only [TimeOfDay.secondOfMinute, nanosPerSecond]
      omega
    refine ⟨moment, atHour, ?_⟩
    rw [← full]
    exact keepsMeaning resolved onPage found timed (Nat.mul_pos (by decide) (by decide)) template

/-- A page with one clock input that takes every fifteenth second. -/
def alarmFixture : PageFixture where
  fields := [{ id := "alarm", type := "time", classes := ["vTimeField"], step := some "15" }]

/-- A session on that page in the middle of a leap second. -/
def alarm : PageSession :=
  Session.create
    { page := .ofFixture alarmFixture, clock := ⟨59, 1500000000, 0⟩, translator := .english }
    .standard none

theorem seconds_keep_meaning_alarm :
    FillsWith (alarm.after .start) (fillClock 0 .now "%H:%M") 0 "00:00:60" ∧
      (fillClock 0 (.hour 6) "%H:%").run (alarm.after .start) =
        .error (.invalidTemplate "%H:%:%S") (alarm.after .start) := by
  have resolved : (alarm.after .start).session.registry.resolve .clock 0 = .ok 0 := by
    decide +kernel
  have kept := seconds_keep_meaning (alarm.after .start) resolved (by decide +kernel)
    (by decide +kernel)
  constructor
  · have filled := ((kept "%H:%M").1 ⟨59, 1500000000, 0⟩ rfl).seconds (by decide +kernel)
    have shown : render? "%H:%M" (.ofInstant ⟨59, 1500000000, 0⟩) = some "00:00" := by
      decide +kernel
    rw [shown] at filled
    exact filled
  · obtain ⟨moment, -, kept⟩ := (kept "%H:%").2 6 (by decide)
    exact kept.unfinished ⟨.percent, _, rfl, by decide⟩

end PageSession

end QuickFill
