/-!
# Dates

Dates of the proleptic Gregorian calendar, in which a year 0 exists.  A date is
its year, month and day; the day number counts days from 1970-01-01, and every
day number belongs to exactly one date.
-/

namespace QuickFill

/-- Whether a year has a 29th of February. -/
def isLeapYear (year : Int) : Bool :=
  year % 4 == 0 && (year % 100 != 0 || year % 400 == 0)

def yearLength (year : Int) : Nat :=
  if isLeapYear year then 366 else 365

/-- The days of a year before the first of a month. -/
def daysBeforeMonth (leap : Bool) : Nat → Nat
  | 0 | 1 => 0
  | 2 => 31
  | 3 => 59 + leap.toNat
  | 4 => 90 + leap.toNat
  | 5 => 120 + leap.toNat
  | 6 => 151 + leap.toNat
  | 7 => 181 + leap.toNat
  | 8 => 212 + leap.toNat
  | 9 => 243 + leap.toNat
  | 10 => 273 + leap.toNat
  | 11 => 304 + leap.toNat
  | 12 => 334 + leap.toNat
  | _ => 365 + leap.toNat

def monthLength (leap : Bool) (month : Nat) : Nat :=
  daysBeforeMonth leap (month + 1) - daysBeforeMonth leap month

/-- The day number of the first of January of a year. -/
def daysBeforeYear (year : Int) : Int :=
  365 * year + (year - 1) / 4 - (year - 1) / 100 + (year - 1) / 400 - 719527

theorem daysBeforeYear_succ (year : Int) :
    daysBeforeYear (year + 1) = daysBeforeYear year + yearLength year := by
  unfold daysBeforeYear yearLength isLeapYear
  split
  next leap =>
    simp only [Bool.and_eq_true, Bool.or_eq_true, beq_iff_eq, bne_iff_ne] at leap
    omega
  next common =>
    simp only [Bool.and_eq_true, Bool.or_eq_true, beq_iff_eq, bne_iff_ne] at common
    omega

/-- Whether a year, a month and a day name a date. -/
def IsCivil (year : Int) (month day : Nat) : Prop :=
  1 ≤ month ∧ month ≤ 12 ∧ 1 ≤ day ∧ day ≤ monthLength (isLeapYear year) month

instance (year : Int) (month day : Nat) : Decidable (IsCivil year month day) :=
  inferInstanceAs (Decidable (_ ∧ _ ∧ _ ∧ _))

structure Date where
  year : Int
  month : Nat
  day : Nat
  civil : IsCivil year month day
  deriving DecidableEq

namespace Date

def daysIntoYear (date : Date) : Nat :=
  daysBeforeMonth (isLeapYear date.year) date.month + (date.day - 1)

/-- The number of days from 1970-01-01 to the date. -/
def dayNumber (date : Date) : Int :=
  daysBeforeYear date.year + date.daysIntoYear

/-- The year that a day number falls in. -/
def yearOf (number : Int) : Int :=
  let estimate := (400 * (number + 719528)) / 146097
  if number < daysBeforeYear estimate then estimate - 1
  else if daysBeforeYear (estimate + 1) ≤ number then estimate + 1
  else estimate

theorem daysBeforeYear_yearOf_le (number : Int) :
    daysBeforeYear (yearOf number) ≤ number := by
  unfold yearOf
  simp only []
  split
  · unfold daysBeforeYear at *; omega
  · split
    · assumption
    · omega

theorem lt_daysBeforeYear_yearOf_succ (number : Int) :
    number < daysBeforeYear (yearOf number + 1) := by
  unfold yearOf
  simp only []
  split
  next before => simpa using before
  · split
    · unfold daysBeforeYear at *; omega
    · omega

def daysIntoYearOf (number : Int) : Nat :=
  (number - daysBeforeYear (yearOf number)).toNat

theorem daysIntoYearOf_lt (number : Int) :
    daysIntoYearOf number < 365 + (isLeapYear (yearOf number)).toNat := by
  have before := daysBeforeYear_yearOf_le number
  have after := lt_daysBeforeYear_yearOf_succ number
  rw [daysBeforeYear_succ] at after
  unfold daysIntoYearOf
  cases leap : isLeapYear (yearOf number) <;>
    simp [yearLength, leap] at after ⊢ <;> omega

/-- The month of the day that `passed` days of its year precede. -/
def monthOf (leap : Bool) (passed : Nat) : Nat :=
  if passed < 31 then 1
  else if passed < 59 + leap.toNat then 2
  else if passed < 90 + leap.toNat then 3
  else if passed < 120 + leap.toNat then 4
  else if passed < 151 + leap.toNat then 5
  else if passed < 181 + leap.toNat then 6
  else if passed < 212 + leap.toNat then 7
  else if passed < 243 + leap.toNat then 8
  else if passed < 273 + leap.toNat then 9
  else if passed < 304 + leap.toNat then 10
  else if passed < 334 + leap.toNat then 11
  else 12

theorem monthOf_spec {leap : Bool} {passed : Nat} (bound : passed < 365 + leap.toNat) :
    1 ≤ monthOf leap passed ∧ monthOf leap passed ≤ 12 ∧
      daysBeforeMonth leap (monthOf leap passed) ≤ passed ∧
      passed < daysBeforeMonth leap (monthOf leap passed + 1) := by
  unfold monthOf
  repeat' split
  all_goals simp only [daysBeforeMonth]; omega

def ofDayNumber (number : Int) : Date :=
  let year := yearOf number
  let passed := daysIntoYearOf number
  let month := monthOf (isLeapYear year) passed
  { year := year
    month := month
    day := passed - daysBeforeMonth (isLeapYear year) month + 1
    civil := by
      have month_spec := monthOf_spec (daysIntoYearOf_lt number)
      simp only [IsCivil, monthLength]
      simp only [month, passed, year]
      omega }

@[simp]
theorem dayNumber_ofDayNumber (number : Int) :
    (ofDayNumber number).dayNumber = number := by
  have month_spec := monthOf_spec (daysIntoYearOf_lt number)
  have before := daysBeforeYear_yearOf_le number
  have passed : (daysIntoYearOf number : Int) = number - daysBeforeYear (yearOf number) := by
    unfold daysIntoYearOf; omega
  simp only [dayNumber, daysIntoYear, ofDayNumber]
  omega

def ofCivil? (year : Int) (month day : Nat) : Option Date :=
  if civil : IsCivil year month day then some ⟨year, month, day, civil⟩ else none

/-- The first day of the supported range, -262143-01-01. -/
def firstDay : Int := -96465292

/-- The last day of the supported range, 262142-12-31. -/
def lastDay : Int := 95026236

def InRange (date : Date) : Prop :=
  firstDay ≤ date.dayNumber ∧ date.dayNumber ≤ lastDay

instance (date : Date) : Decidable date.InRange :=
  inferInstanceAs (Decidable (_ ∧ _))

def ofSupported? (year : Int) (month day : Nat) : Option Date :=
  (ofCivil? year month day).filter fun date => decide date.InRange

/-- The date a number of days later, if it lies in the supported range. -/
def addDays? (date : Date) (days : Int) : Option Date :=
  let moved := ofDayNumber (date.dayNumber + days)
  if moved.InRange then some moved else none

end Date

end QuickFill
