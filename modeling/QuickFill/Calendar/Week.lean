import QuickFill.Calendar.Date

/-!
# Weeks

Weekdays, the weeks of a year counted from its first Sunday or Monday, and the
weeks of the ISO calendar, which belong to the year of their Thursday.
-/

namespace QuickFill

namespace Date

/-- The days since the last Monday, 0 on a Monday. -/
def daysFromMonday (date : Date) : Nat :=
  ((date.dayNumber + 3) % 7).toNat

/-- The days since the last Sunday, 0 on a Sunday. -/
def daysFromSunday (date : Date) : Nat :=
  ((date.dayNumber + 4) % 7).toNat

/-- The week of the year, week 1 starting with the first Sunday. -/
def weekFromSunday (date : Date) : Nat :=
  (date.daysIntoYear + 7 - date.daysFromSunday) / 7

/-- The week of the year, week 1 starting with the first Monday. -/
def weekFromMonday (date : Date) : Nat :=
  (date.daysIntoYear + 7 - date.daysFromMonday) / 7

/-- The Thursday of the week, from Monday to Sunday, that holds the date. -/
def thursday (date : Date) : Date :=
  ofDayNumber (date.dayNumber - date.daysFromMonday + 3)

def isoYear (date : Date) : Int :=
  date.thursday.year

def isoWeek (date : Date) : Nat :=
  date.thursday.daysIntoYear / 7 + 1

def quarter (date : Date) : Nat :=
  (date.month - 1) / 3 + 1

theorem daysFromMonday_lt (date : Date) : date.daysFromMonday < 7 := by
  unfold daysFromMonday; omega

theorem daysFromSunday_lt (date : Date) : date.daysFromSunday < 7 := by
  unfold daysFromSunday; omega

end Date

def monthNames : List String :=
  ["January", "February", "March", "April", "May", "June", "July", "August",
    "September", "October", "November", "December"]

def weekdayNames : List String :=
  ["Monday", "Tuesday", "Wednesday", "Thursday", "Friday", "Saturday", "Sunday"]

end QuickFill
