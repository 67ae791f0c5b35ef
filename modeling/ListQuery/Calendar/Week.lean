import ListQuery.Calendar.Date

/-!
# Weeks of a year

Weeks run from Monday to Sunday. The first week of a year is the one that holds its first
Thursday, so it may begin in the year before, and the last may end in the year after. A date
is given by the year, the week and the day of the week just as well as by year, month and day.

## Main definitions

* `weeksInYear` is the count of weeks in a year.
* `Date.ofWeek?` is the date of a day of a week.
-/

namespace ListQuery

/-- How many days a year has. -/
def daysInYear (year : Nat) : Nat := if isLeapYear year then 366 else 365

/-- How many days lie before a year, from year 1 on: each year has 365, a leap year one more. -/
def daysBeforeYear (year : Nat) : Nat :=
  let past := year - 1
  past * 365 + past / 4 - past / 100 + past / 400

/-- The day of the week of the first of January, from Monday as 0. The calendar begins on a
Monday. -/
def firstWeekday (year : Nat) : Nat := daysBeforeYear year % 7

/-- How many weeks a year has: one more than 52 if it begins on a Thursday, or on a Wednesday
and is a leap year, since only then does it have 53 Thursdays. -/
def weeksInYear (year : Nat) : Nat :=
  if firstWeekday year = 3 || (firstWeekday year = 2 && isLeapYear year) then 53 else 52

/-- Whether three numbers are a year, a week of it and a day of that week. -/
def IsWeekday (year week day : Nat) : Prop :=
  1 ≤ year ∧ (1 ≤ week ∧ week ≤ weeksInYear year) ∧ 1 ≤ day ∧ day ≤ 7

instance (year week day : Nat) : Decidable (IsWeekday year week day) := by
  unfold IsWeekday; infer_instance

namespace Date

/-- The date that lies a number of days after the first day of the first of some months. -/
def ofMonthsDay? (year : Nat) : List Nat → Nat → Option Date
  | [], _ => none
  | month :: months, days =>
    let size := daysInMonth year month
    if days < size then ofFields? year month (days + 1)
    else ofMonthsDay? year months (days - size)

/-- The date that lies a number of days after the first of January. -/
def ofYearDay? (year days : Nat) : Option Date :=
  ofMonthsDay? year [1, 2, 3, 4, 5, 6, 7, 8, 9, 10, 11, 12] days

/-- The date that lies a number of days after the Monday of the week which holds the first of
January. It may belong to the year before or to the year after. -/
def ofDaysFromMonday? (year days : Nat) : Option Date :=
  let before := firstWeekday year
  if days < before then ofYearDay? (year - 1) (daysInYear (year - 1) + days - before)
  else if days - before < daysInYear year then ofYearDay? year (days - before)
  else ofYearDay? (year + 1) (days - before - daysInYear year)

/-- The date of a day of a week, if there is one. A year that begins after its Thursday has
its first week only after the one which holds the first of January. -/
def ofWeek? (year week day : Nat) : Option Date :=
  if IsWeekday year week day then
    let skipped := if firstWeekday year ≤ 3 then 0 else 7
    ofDaysFromMonday? year (skipped + (week - 1) * 7 + (day - 1))
  else none

end Date

end ListQuery
