/-!
# Civil dates

Dates of the Gregorian calendar, extended to all years, and the days they number. Day 0 is the first of January 1970.
-/

namespace Glossa

/-- A year, a month from 1 to 12 and a day from 1. -/
structure Date where
  year : Int
  month : Nat
  day : Nat
deriving DecidableEq, Repr

/-- The days of the week. -/
inductive Weekday where
  | monday
  | tuesday
  | wednesday
  | thursday
  | friday
  | saturday
  | sunday
deriving DecidableEq, Repr

namespace Weekday

/-- The week from Monday. -/
def week : List Weekday := [monday, tuesday, wednesday, thursday, friday, saturday, sunday]

/-- The place in the week, counted from 0 for Monday. -/
def index : Weekday → Nat
  | monday => 0
  | tuesday => 1
  | wednesday => 2
  | thursday => 3
  | friday => 4
  | saturday => 5
  | sunday => 6

/-- The weekday of a numbered day; day 0 is a Thursday. -/
def ofDay (n : Int) : Weekday :=
  match (n + 3) % 7 with
  | 0 => monday
  | 1 => tuesday
  | 2 => wednesday
  | 3 => thursday
  | 4 => friday
  | 5 => saturday
  | _ => sunday

end Weekday

namespace Date

/-- A year of 366 days. -/
def isLeap (year : Int) : Bool := year % 4 == 0 && (year % 100 != 0 || year % 400 == 0)

/-- The number of days in a month. -/
def monthLength (year : Int) (month : Nat) : Nat :=
  match month with
  | 2 => if isLeap year then 29 else 28
  | 4 | 6 | 9 | 11 => 30
  | _ => 31

/-- The days of the year that lie before a month. -/
def daysBeforeMonth (year : Int) : (month : Nat) → Nat
  | 0 => 0
  | 1 => 0
  | m + 2 => daysBeforeMonth year (m + 1) + monthLength year (m + 1)

/-- The number of the first of January. -/
def yearStart (year : Int) : Int :=
  let y := year - 1
  365 * y + y / 4 - y / 100 + y / 400 - 719162

/-- The number of a day. -/
def toDay (d : Date) : Int := yearStart d.year + daysBeforeMonth d.year d.month + d.day - 1

/-- The year that holds a numbered day. The estimate from the mean length of a year is off by one at most. -/
def yearOf (n : Int) : Int :=
  let year := (n + 719162) * 400 / 146097 + 1
  if n < yearStart year then year - 1 else if yearStart (year + 1) ≤ n then year + 1 else year

/-- The month and day that lie `rest` days after the first of a month, with `left` months to go in the year. -/
def monthAndDay (year : Int) : (left month rest : Nat) → Nat × Nat
  | 0, month, rest => (month, rest + 1)
  | left + 1, month, rest =>
    if rest < monthLength year month then (month, rest + 1)
    else monthAndDay year left (month + 1) (rest - monthLength year month)

/-- The date of a numbered day. -/
def ofDay (n : Int) : Date :=
  let year := yearOf n
  let (month, day) := monthAndDay year 11 1 (n - yearStart year).toNat
  ⟨year, month, day⟩

/-- The first and the last day that dates are kept for. -/
def firstDay : Int := -96465292

/-- The last day that dates are kept for, the last of December 262142. -/
def lastDay : Int := 95026236

/-- Whether the date exists and is kept. -/
def isValid (d : Date) : Bool :=
  1 ≤ d.month && d.month ≤ 12 && 1 ≤ d.day && d.day ≤ monthLength d.year d.month && firstDay ≤ d.toDay &&
    d.toDay ≤ lastDay

/-- The date moved by months, with the day cut to the length of the month. -/
def addMonths (d : Date) (months : Int) : Date :=
  let m := d.year * 12 + (d.month - 1 : Int) + months
  let year := m / 12
  let month := (m % 12).toNat + 1
  ⟨year, month, min d.day (monthLength year month)⟩

/-- The year of the week that holds a numbered day: the year of the Thursday of that week. -/
def weekYear (n : Int) : Int := yearOf (n - (Weekday.ofDay n).index + 3)

end Date

/-- Seconds in a day. -/
def secondsPerDay : Int := 86400

/-- A date and a time of day on the clock of some place, as the seconds that a clock without offset would count. -/
abbrev LocalSeconds := Int

namespace LocalSeconds

/-- The number of the day. -/
def day (l : LocalSeconds) : Int := l / secondsPerDay

/-- The seconds since midnight. -/
def secondOfDay (l : LocalSeconds) : Nat := (l % secondsPerDay).toNat

/-- The date. -/
def date (l : LocalSeconds) : Date := Date.ofDay (day l)

/-- The hour from 0 to 23. -/
def hour (l : LocalSeconds) : Nat := secondOfDay l / 3600

/-- The minute of the hour. -/
def minute (l : LocalSeconds) : Nat := secondOfDay l / 60 % 60

/-- The second of the minute. -/
def second (l : LocalSeconds) : Nat := secondOfDay l % 60

/-- The seconds of a date and a time of day. -/
def ofDate (d : Date) (secondOfDay : Int) : LocalSeconds := d.toDay * secondsPerDay + secondOfDay

/-- Whether the day is kept. -/
def isKept (l : LocalSeconds) : Bool := Date.firstDay ≤ day l && day l ≤ Date.lastDay

end LocalSeconds

end Glossa
