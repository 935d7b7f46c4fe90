import QuickFill.Proofs.CommandLine.ClickText
import QuickFill.Proofs.Page.DayFromToday
import QuickFill.Proofs.Page.Picked

/-!
# The text of a picked date

A date can be picked on a page, given in a click, or counted to by a link.  The three numbers that
are picked have to be a day of the Gregorian calendar in the supported years.  The text that they
leave is the same as the one that a link writes for that day, and it is read back in a click as
that day and no other.
-/

namespace QuickFill

namespace Date

/-- The days of a month by the rules of the calendar, none where there is no such month. -/
def gregorianLength (year : Int) : Nat → Nat
  | 1 | 3 | 5 | 7 | 8 | 10 | 12 => 31
  | 4 | 6 | 9 | 11 => 30
  | 2 => if 400 ∣ year ∨ 4 ∣ year ∧ ¬100 ∣ year then 29 else 28
  | _ => 0

/-- Whether three numbers are a day of the calendar in the years that are supported. -/
structure IsGregorian (year : Int) (month day : Nat) : Prop where
  day_pos : 1 ≤ day
  day_le : day ≤ gregorianLength year month
  year_ge : -262143 ≤ year
  year_le : year ≤ 262142

variable {year : Int} {month day : Nat} {date : Date}

theorem isLeapYear_iff (year : Int) :
    isLeapYear year = true ↔ 400 ∣ year ∨ 4 ∣ year ∧ ¬100 ∣ year := by
  unfold isLeapYear
  simp only [Bool.and_eq_true, Bool.or_eq_true, beq_iff_eq, bne_iff_ne]
  omega

theorem gregorianLength_two (year : Int) :
    gregorianLength year 2 = if isLeapYear year then 29 else 28 := by
  simp only [isLeapYear_iff]
  rfl

theorem gregorianLength_eq_zero {month : Nat} (beyond : month = 0 ∨ 13 ≤ month) :
    gregorianLength year month = 0 := by
  unfold gregorianLength
  split <;> omega

/-- The months of the two tables have the same lengths. -/
theorem monthLength_eq (year : Int) (month : Nat) :
    monthLength (isLeapYear year) month = gregorianLength year month := by
  by_cases beyond : month = 0 ∨ 13 ≤ month
  · rw [gregorianLength_eq_zero beyond]
    rcases beyond with rfl | beyond
    · rfl
    · obtain ⟨more, rfl⟩ := Nat.exists_eq_add_of_le' beyond
      exact Nat.sub_self _
  · obtain rfl | other := eq_or_ne month 2
    · rw [gregorianLength_two]
      cases isLeapYear year <;> rfl
    · have same : ∀ (leap : Bool) (number : Fin 13), number.val ≠ 2 →
          monthLength leap number = gregorianLength 0 number := by decide
      have fixed : gregorianLength year month = gregorianLength 0 month := by
        unfold gregorianLength
        split <;> first | rfl | exact (other rfl).elim
      rw [fixed]
      exact same _ ⟨month, by omega⟩ other

theorem isCivil_iff : IsCivil year month day ↔ 1 ≤ day ∧ day ≤ gregorianLength year month := by
  unfold IsCivil
  rw [monthLength_eq]
  constructor
  · rintro ⟨-, -, dayFrom, dayTo⟩
    exact ⟨dayFrom, dayTo⟩
  · rintro ⟨dayFrom, dayTo⟩
    have known : gregorianLength year month ≠ 0 := by omega
    unfold gregorianLength at known
    split at known <;> first | exact ⟨by decide, by decide, dayFrom, dayTo⟩ | exact (known rfl).elim

/-- The days of the calendar in the supported years are the dates that are supported. -/
theorem ofSupported?_eq_some_iff :
    ofSupported? year month day = some date ↔
      IsGregorian year month day ∧ date.year = year ∧ date.month = month ∧ date.day = day := by
  unfold ofSupported? ofCivil?
  rw [Option.filter_eq_some_iff, decide_eq_true_iff, inRange_iff_year]
  constructor
  · rintro ⟨made, early, late⟩
    split at made
    · next civil =>
      obtain rfl := Option.some.inj made
      obtain ⟨dayFrom, dayTo⟩ := isCivil_iff.mp civil
      exact ⟨⟨dayFrom, dayTo, early, late⟩, rfl, rfl, rfl⟩
    · cases made
  · rintro ⟨gregorian, rfl, rfl, rfl⟩
    rw [dif_pos date.civil]
    exact ⟨rfl, gregorian.year_ge, gregorian.year_le⟩

theorem exists_of_isGregorian (gregorian : IsGregorian year month day) :
    ∃ date, ofSupported? year month day = some date := by
  have civil : IsCivil year month day := isCivil_iff.mpr ⟨gregorian.day_pos, gregorian.day_le⟩
  exact ⟨⟨year, month, day, civil⟩, ofSupported?_eq_some_iff.mpr ⟨gregorian, rfl, rfl, rfl⟩⟩

theorem ofSupported?_eq_none (noDay : ¬IsGregorian year month day) :
    ofSupported? year month day = none := by
  cases found : ofSupported? year month day with
  | none => rfl
  | some date => exact absurd (ofSupported?_eq_some_iff.mp found).1 noDay

end Date

namespace PageSession

open Session

variable {running : PageSession} {handle input : Nat} {year : Int} {month day : Nat} {date : Date}

/-- A date can be picked for a handle: its input is on the page, its box is known, and the texts of
the page are English. -/
structure Pickable (running : PageSession) (handle input : Nat) : Prop where
  resolved : running.session.registry.resolve .calendar handle = .ok input
  onPage : input < running.page.page.inputs.length
  box_mem : running.session.settings.boxId handle ∈ running.page.page.boxes
  english : running.page.translator = .english

/-- All that is refused is what is not a day, and nothing is done then. -/
theorem Pickable.run_pickDate_refused (pickable : Pickable running handle input)
    (noDay : ¬Date.IsGregorian year month day) :
    (pickDate handle year month day).run running = .error (.invalidDate year month day) running := by
  rw [run_pickDate, run_fillInput_page, pickable.resolved]
  simp only [requestText, pickText, Date.ofSupported?_eq_none noDay]

/-- A day is written into the input, and can be picked again. -/
theorem Pickable.run_pickDate_date (pickable : Pickable running handle input)
    (inRange : date.InRange) :
    ∃ after, (pickDate handle date.year date.month date.day).run running =
        .ok (String.ofList (Clock.writeDate date)) after ∧
      after.page.page.value? input = some (String.ofList (Clock.writeDate date)) ∧
        Pickable after handle input := by
  obtain ⟨resolved, onPage, here, english⟩ := pickable
  have texted : pickText running date.year date.month date.day =
      .ok (String.ofList (Clock.writeDate date)) := by
    have template : (Environment.translator running.page).dateTemplate =
        Settings.standard.dateTemplate := congrArg Translator.dateTemplate english
    unfold pickText fill
    simp only [Date.ofSupported?_of_inRange inRange, template, Date.render?_date]
    rfl
  have filled := Page.filledAlone onPage (String.ofList (Clock.writeDate date))
  have pageEq (page : Page) : (running.onPage page).page.page = page := rfl
  rw [run_pickDate, run_fillInput_page, resolved]
  simp only [requestText, texted, if_pos onPage, run_requestEnd_pick, pageEq, filled.boxes_eq,
    List.contains_iff_mem, if_pos here]
  have kept : input < (running.page.page.modifyInput input
      fun old => { old with value := String.ofList (Clock.writeDate date) }).inputs.length := by
    unfold Page.modifyInput
    rwa [List.length_modify]
  exact ⟨_, rfl, filled.value_eq, ⟨resolved, kept, here, english⟩⟩

/-- A date that was picked, and the text that it left. -/
structure PicksAs (running : PageSession) (handle input : Nat) (date : Date) (text : String) :
    Prop where
  /-- The text is in the input, and the same pick in a click leaves it there again. -/
  answered : ∃ after again,
    (pickDate handle date.year date.month date.day).run running = .ok text after ∧
      after.page.page.value? input = some text ∧
        (Click.pick handle date).perform.run after = .ok text again ∧
          again.page.page.value? input = some text
  /-- In a click the text is this date, with any handle before it. -/
  clicked : ∀ (number : Nat) (part : String), Click.SpellsHandle number part.toList →
    Click.read ("pick:" ++ part ++ ":" ++ text) = .ok (.pick number date)
  /-- The links of all sessions with the standard template write this date so. -/
  counted : ∀ (other : PageSession) (link number : Nat) (days : Int),
    other.session.registry.resolve .calendar link = .ok number →
      number < other.page.page.inputs.length →
        other.session.settings.dateTemplate = Settings.standard.dateTemplate →
          serverDay other days = .ok date →
            FillsWith other (Session.follow (.calendarDay link days)) number text

theorem Pickable.picksAs (pickable : Pickable running handle input) (inRange : date.InRange) :
    PicksAs running handle input date (String.ofList (Clock.writeDate date)) where
  answered := by
    obtain ⟨after, answered, held, still⟩ := pickable.run_pickDate_date inRange
    obtain ⟨again, answeredAgain, heldAgain, -⟩ := still.run_pickDate_date inRange
    exact ⟨after, again, answered, held, answeredAgain, heldAgain⟩
  clicked := by
    intro number part spelled
    have shown : "pick:" ++ part ++ ":" ++ String.ofList (Clock.writeDate date) =
        String.intercalate ":" ["pick", part, String.ofList (Clock.writeDate date)] := by
      rw [← String.toList_inj, String.toList_intercalate]
      simp
    rw [shown]
    exact Click.read_pick spelled inRange
  counted := by
    intro other link number days resolved onPage standard counts
    have filled := fillCalendar_fillsWith resolved onPage standard days
    rw [counts] at filled
    exact filled

/-- Three numbers are picked exactly if they are a day of the calendar in the supported years.  The
text that they leave is read in a click as that day, and written by every link for that day. -/
theorem date_picked (running : PageSession) {handle input : Nat}
    (pickable : Pickable running handle input) (year : Int) (month day : Nat) :
    (Date.IsGregorian year month day → ∃ date text, date.year = year ∧ date.month = month ∧
      date.day = day ∧ PicksAs running handle input date text) ∧
    (¬Date.IsGregorian year month day → (pickDate handle year month day).run running =
      .error (.invalidDate year month day) running) := by
  refine ⟨fun gregorian => ?_, pickable.run_pickDate_refused⟩
  obtain ⟨date, found⟩ := Date.exists_of_isGregorian gregorian
  obtain ⟨-, rfl, rfl, rfl⟩ := Date.ofSupported?_eq_some_iff.mp found
  have inRange := date.inRange_iff_year.mpr ⟨gregorian.year_ge, gregorian.year_le⟩
  exact ⟨date, _, rfl, rfl, rfl, pickable.picksAs inRange⟩

/-- A page with a day, an hour and the box that days are picked from. -/
def boxedMeeting : PageSession :=
  Session.create
    { page := .ofFixture { meetingFixture with boxes := ["calendarbox0"] }
      clock := ⟨0, 0, 0⟩
      translator := .english }
    .standard none

/-- The year 0 is a leap year, and the year -100 is not. -/
theorem date_picked_leapDays :
    Pickable (boxedMeeting.after .start) 0 0 ∧
      (∃ date text, date.year = 0 ∧ date.month = 2 ∧ date.day = 29 ∧
        PicksAs (boxedMeeting.after .start) 0 0 date text) ∧
      (pickDate 0 (-100) 2 29).run (boxedMeeting.after .start) =
        .error (.invalidDate (-100) 2 29) (boxedMeeting.after .start) := by
  have pickable : Pickable (boxedMeeting.after .start) 0 0 :=
    ⟨by decide +kernel, by decide +kernel, by decide +kernel, rfl⟩
  refine ⟨pickable, (date_picked _ pickable 0 2 29).1 ?_, (date_picked _ pickable (-100) 2 29).2 ?_⟩
  · exact ⟨by decide, by decide, by decide, by decide⟩
  · rintro ⟨-, inMonth, -, -⟩
    exact absurd inMonth (by decide)

end PageSession

end QuickFill
