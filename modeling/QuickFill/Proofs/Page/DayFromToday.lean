import QuickFill.Proofs.Calendar.DateText
import QuickFill.Proofs.Page.Filled

/-!
# A number of days from today

A calendar link counts days from the date of the server, over months, years and leap days and
without an end but those of the supported range.  What it writes is read back as the day that
it counted to.  The clock of the server can be within its range and yet show a date that is
not: then no day is counted from it, not even one of the range.
-/

namespace QuickFill

open Session

namespace Date

/-- Whether a day number is that of a date of the supported range. -/
def Supported (number : Int) : Prop :=
  firstDay ≤ number ∧ number ≤ lastDay

instance (number : Int) : Decidable (Supported number) :=
  inferInstanceAs (Decidable (_ ∧ _))

theorem addDays?_of_supported {date : Date} {days : Int}
    (supported : Supported (date.dayNumber + days)) :
    date.addDays? days = some (ofDayNumber (date.dayNumber + days)) := by
  have inRange : (ofDayNumber (date.dayNumber + days)).InRange := by
    rw [InRange, dayNumber_ofDayNumber]
    exact supported
  exact if_pos inRange

theorem addDays?_of_not_supported {date : Date} {days : Int}
    (beyond : ¬Supported (date.dayNumber + days)) : date.addDays? days = none := by
  have outOfRange : ¬(ofDayNumber (date.dayNumber + days)).InRange := by
    rw [InRange, dayNumber_ofDayNumber]
    exact beyond
  exact if_neg outOfRange

/-- No two dates of the range are farther apart than can be moved. -/
theorem not_supported_of_farthest {date : Date} {days : Int} (inRange : date.InRange)
    (far : farthestDays < days.natAbs) : ¬Supported (date.dayNumber + days) := by
  rintro ⟨afterFirst, beforeLast⟩
  obtain ⟨dateAfterFirst, dateBeforeLast⟩ := inRange
  simp only [firstDay, lastDay, farthestDays] at *
  omega

end Date

namespace PageSession

variable {running : PageSession} {handle input : Nat} {instant : Instant} {days : Int}

theorem serverToday_of_inRange (nowEq : serverNow running = .ok instant)
    (shown : instant.date.InRange) : serverToday running = .ok instant.date := by
  rw [serverToday, nowEq]
  exact if_pos shown

theorem serverToday_of_not_inRange (nowEq : serverNow running = .ok instant)
    (hidden : ¬instant.date.InRange) : serverToday running = .error .clockOutOfRange := by
  rw [serverToday, nowEq]
  exact if_neg hidden

/-- The day that is counted to, as far as there is one. -/
theorem serverDay_of_inRange (nowEq : serverNow running = .ok instant)
    (shown : instant.date.InRange) (days : Int) :
    serverDay running days =
      if Date.Supported (instant.date.dayNumber + days) then
        .ok (.ofDayNumber (instant.date.dayNumber + days))
      else .error (.dayOffsetOutOfRange days) := by
  rw [serverDay]
  by_cases far : farthestDays < days.natAbs
  · rw [if_pos far, if_neg (Date.not_supported_of_farthest shown far)]
  · rw [if_neg far, serverToday_of_inRange nowEq shown]
    by_cases supported : Date.Supported (instant.date.dayNumber + days)
    · simp only [if_pos supported, bind, Except.bind, Date.addDays?_of_supported supported]
    · simp only [if_neg supported, bind, Except.bind, Date.addDays?_of_not_supported supported]

theorem serverDay_of_not_inRange (nowEq : serverNow running = .ok instant)
    (hidden : ¬instant.date.InRange) (days : Int) :
    serverDay running days =
      .error (if farthestDays < days.natAbs then .dayOffsetOutOfRange days
        else .clockOutOfRange) := by
  rw [serverDay]
  by_cases far : farthestDays < days.natAbs
  · rw [if_pos far, if_pos far]
  · rw [if_neg far, if_neg far, serverToday_of_not_inRange nowEq hidden]
    rfl

/-- Filling a calendar input depends on the day that is counted to alone. -/
theorem fillCalendar_fillsWith
    (resolved : running.session.registry.resolve .calendar handle = .ok input)
    (onPage : input < running.page.page.inputs.length)
    (standard : running.session.settings.dateTemplate = Settings.standard.dateTemplate)
    (days : Int) :
    match serverDay running days with
    | .ok date =>
      FillsWith running (fillCalendar handle days) input (String.ofList (Clock.writeDate date))
    | .error fault => (fillCalendar handle days).run running = .error fault running := by
  have runEq : (fillCalendar handle days).run running =
      (fillInput .calendar handle (.today handle days)).run running :=
    run_fillCalendar handle days _ (fun _ => rfl) fun _ => rfl
  have filled := fillsWith_of_logged runEq (fun _ => rfl) resolved onPage
  rw [requestText, dayText] at filled
  cases counted : serverDay running days with
  | error fault =>
      rw [counted] at filled
      exact filled
  | ok date =>
      have written : fill running.session.settings.dateTemplate (.ofDate date) =
          .ok (String.ofList (Clock.writeDate date)) := by
        rw [fill, standard, Date.render?_date]
        rfl
      simp only [counted, bind, Except.bind, written] at filled
      exact filled

/-- Days are counted from the date of an instant exactly, up to the ends of the range. -/
structure CountsDays (running : PageSession) (handle input : Nat) (instant : Instant) : Prop where
  refused_iff : ∀ days,
    (fillCalendar handle days).run running = .error (.dayOffsetOutOfRange days) running ↔
      ¬Date.Supported (instant.date.dayNumber + days)
  /-- What is written is read back as the one date that has the day number counted to. -/
  written : ∀ days, Date.Supported (instant.date.dayNumber + days) →
    ∃ text date, FillsWith running (fillCalendar handle days) input text ∧
      Date.read text.toList = .ok date ∧
        ∀ other : Date, other.dayNumber = instant.date.dayNumber + days ↔ other = date
  /-- Two dates that are written are as far apart as they were asked to be. -/
  apart : ∀ days other text otherText, FillsWith running (fillCalendar handle days) input text →
    FillsWith running (fillCalendar handle other) input otherText →
      ∃ date otherDate, Date.read text.toList = .ok date ∧
        Date.read otherText.toList = .ok otherDate ∧
          otherDate.dayNumber - date.dayNumber = other - days

theorem FillsWith.text_eq {action : Action Workbench Nat String} {text other : String}
    (filled : FillsWith running action input text) (again : FillsWith running action input other) :
    text = other := by
  obtain ⟨after, answered, -⟩ := filled
  obtain ⟨otherAfter, otherAnswered, -⟩ := again
  exact (EStateM.Result.ok.inj (answered.symm.trans otherAnswered)).1

theorem countsDays (resolved : running.session.registry.resolve .calendar handle = .ok input)
    (onPage : input < running.page.page.inputs.length)
    (standard : running.session.settings.dateTemplate = Settings.standard.dateTemplate)
    (nowEq : serverNow running = .ok instant) (shown : instant.date.InRange) :
    CountsDays running handle input instant := by
  have filled (days : Int) := fillCalendar_fillsWith resolved onPage standard days
  simp only [serverDay_of_inRange nowEq shown] at filled
  have written (days : Int) (supported : Date.Supported (instant.date.dayNumber + days)) :
      ∃ text date, FillsWith running (fillCalendar handle days) input text ∧
        Date.read text.toList = .ok date ∧
          ∀ other : Date, other.dayNumber = instant.date.dayNumber + days ↔ other = date := by
    have filled := filled days
    simp only [if_pos supported] at filled
    refine ⟨_, _, filled, ?_, Date.dayNumber_eq_iff _⟩
    rw [String.toList_ofList]
    apply Date.read_writeDate
    rw [Date.InRange, Date.dayNumber_ofDayNumber]
    exact supported
  have refused (days : Int) (beyond : ¬Date.Supported (instant.date.dayNumber + days)) :
      (fillCalendar handle days).run running = .error (.dayOffsetOutOfRange days) running := by
    have filled := filled days
    simp only [if_neg beyond] at filled
    exact filled
  have supported_of_filled {days : Int} {text : String}
      (filled : FillsWith running (fillCalendar handle days) input text) :
      Date.Supported (instant.date.dayNumber + days) := by
    refine Decidable.byContradiction fun beyond => ?_
    obtain ⟨after, answered, -⟩ := filled
    cases (refused days beyond).symm.trans answered
  refine ⟨fun days => ⟨?_, refused days⟩, written, ?_⟩
  · intro refusal supported
    obtain ⟨text, -, ⟨after, answered, -⟩, -⟩ := written days supported
    cases refusal.symm.trans answered
  · intro days other text otherText filled otherFilled
    obtain ⟨again, date, refilled, readBack, numbered⟩ :=
      written days (supported_of_filled filled)
    obtain ⟨otherAgain, otherDate, otherRefilled, otherReadBack, otherNumbered⟩ :=
      written other (supported_of_filled otherFilled)
    obtain rfl := filled.text_eq refilled
    obtain rfl := otherFilled.text_eq otherRefilled
    have days := (numbered date).mpr rfl
    have otherDays := (otherNumbered otherDate).mpr rfl
    exact ⟨date, otherDate, readBack, otherReadBack, by omega⟩

/-- A calendar link of a session with the standard template counts days exactly from the date
of the server and never past the range; where that date itself lies past the range, it writes
nothing. -/
theorem days_counted (running : PageSession) {handle input : Nat} {instant : Instant}
    (resolved : running.session.registry.resolve .calendar handle = .ok input)
    (onPage : input < running.page.page.inputs.length)
    (standard : running.session.settings.dateTemplate = Settings.standard.dateTemplate)
    (nowEq : serverNow running = .ok instant) :
    (instant.date.InRange → CountsDays running handle input instant) ∧
      (¬instant.date.InRange → ∀ days, (fillCalendar handle days).run running =
        .error (if farthestDays < days.natAbs then .dayOffsetOutOfRange days
          else .clockOutOfRange) running) := by
  refine ⟨countsDays resolved onPage standard nowEq, fun hidden days => ?_⟩
  have filled := fillCalendar_fillsWith resolved onPage standard days
  rw [serverDay_of_not_inRange nowEq hidden] at filled
  exact filled

/-- The meeting on an evening, by a clock an hour ahead of universal time and half an hour
behind its server. -/
def evening (second : Int) : PageSession :=
  Session.create
    { page := .ofFixture meetingFixture, clock := ⟨second, 0, 3600⟩, translator := .english }
    .standard (some 5400)

theorem resolve_evening (second : Int) :
    ((evening second).after .start).session.registry.resolve .calendar 0 = .ok 0 :=
  rfl

/-- The last evening of the year 9999, and the last evening of the supported range. -/
theorem days_counted_evenings :
    CountsDays ((evening 253402295400).after .start) 0 0 ⟨253402297200, 0, 3600⟩ ∧
      (fillCalendar 0 (-1)).run ((evening 8210266871400).after .start) =
        .error .clockOutOfRange ((evening 8210266871400).after .start) :=
  ⟨(days_counted _ (resolve_evening 253402295400) (by decide +kernel) (by decide +kernel) rfl).1
      (by decide +kernel),
    (days_counted _ (resolve_evening 8210266871400) (by decide +kernel) (by decide +kernel) rfl).2
      (by decide +kernel) (-1)⟩

/-- On the last evening the hour can be told, and the day before the one that the server shows
is a day of the range, but it is not counted to. -/
theorem eve_unanswered :
    ∃ instant text, serverNow ((evening 8210266871400).after .start) = .ok instant ∧
      FillsWith ((evening 8210266871400).after .start) (fillClock 0 .now "%H:%M") 1 text ∧
        Date.Supported (instant.date.dayNumber + -1) ∧
          (fillCalendar 0 (-1)).run ((evening 8210266871400).after .start) =
            .error .clockOutOfRange ((evening 8210266871400).after .start) := by
  have resolved : ((evening 8210266871400).after .start).session.registry.resolve .clock 0 =
      .ok 1 := by
    decide +kernel
  have onPage : 1 < ((evening 8210266871400).after .start).page.page.inputs.length := by
    decide +kernel
  refine ⟨⟨8210266873200, 0, 3600⟩, "00:00", rfl, ?_, by decide +kernel, rfl⟩
  exact fillsWith_of_logged (run_fillClock 0 .now "%H:%M" (.clock 0 .now (some "%H:%M"))
    (fun _ => rfl) fun _ => rfl) (fun _ => rfl) resolved onPage

end PageSession

end QuickFill
