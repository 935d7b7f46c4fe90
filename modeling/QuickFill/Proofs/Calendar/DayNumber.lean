import QuickFill.Calendar.Date

/-!
# Dates and day numbers

A later year has the later days, so a date is known by its day number.  The supported range
is a range of whole years.
-/

namespace QuickFill

theorem daysBeforeMonth_mono (leap : Bool) {month other : Nat} (later : month ≤ other)
    (last : other ≤ 13) : daysBeforeMonth leap month ≤ daysBeforeMonth leap other := by
  have each : ∀ (leap : Bool) (other : Fin 14) (month : Fin 14), month ≤ other →
      daysBeforeMonth leap month ≤ daysBeforeMonth leap other := by decide
  exact each leap ⟨other, by omega⟩ ⟨month, by omega⟩ later

theorem daysBeforeMonth_last (year : Int) :
    daysBeforeMonth (isLeapYear year) 13 = yearLength year := by
  rw [yearLength]
  cases isLeapYear year <;> rfl

theorem daysBeforeYear_mono {year other : Int} (later : year ≤ other) :
    daysBeforeYear year ≤ daysBeforeYear other := by
  unfold daysBeforeYear
  omega

namespace Date

theorem daysIntoYear_lt_next (date : Date) :
    date.daysIntoYear < daysBeforeMonth (isLeapYear date.year) (date.month + 1) := by
  obtain ⟨-, -, first, last⟩ := date.civil
  rw [monthLength] at last
  rw [daysIntoYear]
  omega

theorem daysBeforeMonth_le_daysIntoYear (date : Date) :
    daysBeforeMonth (isLeapYear date.year) date.month ≤ date.daysIntoYear :=
  Nat.le_add_right _ _

theorem daysIntoYear_lt_yearLength (date : Date) : date.daysIntoYear < yearLength date.year :=
  calc
    date.daysIntoYear < daysBeforeMonth (isLeapYear date.year) (date.month + 1) :=
      date.daysIntoYear_lt_next
    _ ≤ daysBeforeMonth (isLeapYear date.year) 13 :=
      daysBeforeMonth_mono _ (Nat.succ_le_succ date.civil.2.1) (Nat.le_refl 13)
    _ = yearLength date.year := daysBeforeMonth_last date.year

theorem daysBeforeYear_le_dayNumber (date : Date) : daysBeforeYear date.year ≤ date.dayNumber := by
  rw [dayNumber]
  omega

theorem dayNumber_lt_daysBeforeYear_succ (date : Date) :
    date.dayNumber < daysBeforeYear (date.year + 1) := by
  have inYear := date.daysIntoYear_lt_yearLength
  rw [dayNumber, daysBeforeYear_succ]
  omega

theorem dayNumber_lt_of_year_lt {date other : Date} (earlier : date.year < other.year) :
    date.dayNumber < other.dayNumber :=
  calc
    date.dayNumber < daysBeforeYear (date.year + 1) := date.dayNumber_lt_daysBeforeYear_succ
    _ ≤ daysBeforeYear other.year := daysBeforeYear_mono earlier
    _ ≤ other.dayNumber := other.daysBeforeYear_le_dayNumber

theorem daysIntoYear_lt_of_month_lt {date other : Date} (sameYear : date.year = other.year)
    (earlier : date.month < other.month) : date.daysIntoYear < other.daysIntoYear :=
  calc
    date.daysIntoYear < daysBeforeMonth (isLeapYear date.year) (date.month + 1) :=
      date.daysIntoYear_lt_next
    _ ≤ daysBeforeMonth (isLeapYear other.year) other.month := by
      rw [sameYear]
      exact daysBeforeMonth_mono _ earlier (by have := other.civil.2.1; omega)
    _ ≤ other.daysIntoYear := other.daysBeforeMonth_le_daysIntoYear

/-- No two dates have one day number. -/
theorem dayNumber_injective : Function.Injective dayNumber := by
  intro date other same
  have sameYear : date.year = other.year := by
    rcases Int.lt_trichotomy date.year other.year with earlier | equal | later
    · have := dayNumber_lt_of_year_lt earlier
      omega
    · exact equal
    · have := dayNumber_lt_of_year_lt later
      omega
  have sameDays : date.daysIntoYear = other.daysIntoYear := by
    rw [dayNumber, dayNumber, sameYear] at same
    omega
  have sameMonth : date.month = other.month := by
    rcases Nat.lt_trichotomy date.month other.month with earlier | equal | later
    · have := daysIntoYear_lt_of_month_lt sameYear earlier
      omega
    · exact equal
    · have := daysIntoYear_lt_of_month_lt sameYear.symm later
      omega
  have sameDay : date.day = other.day := by
    have first := date.civil.2.2.1
    have otherFirst := other.civil.2.2.1
    rw [daysIntoYear, daysIntoYear, sameYear, sameMonth] at sameDays
    omega
  obtain ⟨year, month, day, civil⟩ := date
  obtain ⟨otherYear, otherMonth, otherDay, otherCivil⟩ := other
  obtain rfl : year = otherYear := sameYear
  obtain rfl : month = otherMonth := sameMonth
  obtain rfl : day = otherDay := sameDay
  rfl

/-- Each day number has its date. -/
theorem dayNumber_eq_iff (number : Int) (date : Date) :
    date.dayNumber = number ↔ date = ofDayNumber number := by
  constructor
  · intro numbered
    apply dayNumber_injective
    rw [numbered, dayNumber_ofDayNumber]
  · rintro rfl
    exact dayNumber_ofDayNumber number

/-- The supported range is that of the years from -262143 to 262142. -/
theorem inRange_iff_year (date : Date) :
    date.InRange ↔ -262143 ≤ date.year ∧ date.year ≤ 262142 := by
  have first : daysBeforeYear (-262143) = firstDay := by decide
  have last : daysBeforeYear 262143 = lastDay + 1 := by decide
  have begins := date.daysBeforeYear_le_dayNumber
  have ends := date.dayNumber_lt_daysBeforeYear_succ
  constructor
  · rintro ⟨afterFirst, beforeLast⟩
    constructor
    · refine Int.not_lt.mp fun earlier => ?_
      have := daysBeforeYear_mono (Int.add_one_le_of_lt earlier)
      omega
    · refine Int.not_lt.mp fun later => ?_
      have : daysBeforeYear 262143 ≤ daysBeforeYear date.year := daysBeforeYear_mono later
      omega
  · rintro ⟨notBefore, notAfter⟩
    have early := daysBeforeYear_mono notBefore
    have late : daysBeforeYear (date.year + 1) ≤ daysBeforeYear 262143 :=
      daysBeforeYear_mono (Int.add_le_add_right notAfter 1)
    exact ⟨by omega, by omega⟩

end Date

end QuickFill
