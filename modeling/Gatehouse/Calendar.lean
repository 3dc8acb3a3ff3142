/-!
# The Gregorian calendar

Dates of the proleptic Gregorian calendar and their day numbers, counted from 1 January 1970. Years
run from `Calendar.firstYear` to `Calendar.lastYear`. `Date.dayNumber` and `Date.ofDayNumber` are
inverse to each other on valid dates.
-/

namespace Gatehouse

/-- A year, month and day. -/
structure Date where
  year : Int
  month : Nat
  day : Nat
  deriving DecidableEq, Repr

namespace Calendar

/-- The first year of the calendar. -/
def firstYear : Int := -262143

/-- The last year of the calendar. -/
def lastYear : Int := 262142

/-- Leap years: every fourth, of the centuries every fourth. -/
def isLeapYear (y : Int) : Bool := y % 4 = 0 && (y % 100 ≠ 0 || y % 400 = 0)

/-- The lengths of the months of a year. -/
def monthLengths (leap : Bool) : List Nat :=
  [31, if leap then 29 else 28, 31, 30, 31, 30, 31, 31, 30, 31, 30, 31]

/-- The days from 1 January of year 1 to 1 January of year `y`. -/
def daysBeforeYear (y : Int) : Int :=
  let p := y - 1
  365 * p + p / 4 - p / 100 + p / 400

/-- The days from 1 January of year 1 to 1 January 1970. -/
def epochDay : Int := 719162

/-- The year that holds the day `n` days after 1 January of year 1. The quotient by the mean length of
a year misses it by at most one. -/
def yearOfDay (n : Int) : Int :=
  let guess := n * 400 / 146097 + 1
  if daysBeforeYear (guess + 1) ≤ n then guess + 1
  else if n < daysBeforeYear guess then guess - 1
  else guess

/-- The days of a year before a month, with months counted from 1. -/
def daysBeforeMonth (leap : Bool) (month : Nat) : Nat :=
  ((monthLengths leap).take (month - 1)).foldl (· + ·) 0

/-- The month and day of a day of the year, both counted from 1, from a month on. -/
def monthAndDay (month : Nat) (dayOfYear : Nat) : List Nat → Nat × Nat
  | [] => (month, dayOfYear + 1)
  | length :: rest =>
    if dayOfYear < length then (month, dayOfYear + 1)
    else monthAndDay (month + 1) (dayOfYear - length) rest

end Calendar

namespace Date

/-- The length of a date's month, if there is such a month. -/
def monthLength? (d : Date) : Option Nat :=
  if d.month = 0 then none else (Calendar.monthLengths (Calendar.isLeapYear d.year))[d.month - 1]?

/-- The date exists in the calendar. -/
def isValid (d : Date) : Bool :=
  Calendar.firstYear ≤ d.year && d.year ≤ Calendar.lastYear && 1 ≤ d.day &&
    match d.monthLength? with
    | some length => d.day ≤ length
    | none => false

/-- The number of days from 1 January 1970. -/
def dayNumber (d : Date) : Int :=
  Calendar.daysBeforeYear d.year - Calendar.epochDay +
    Calendar.daysBeforeMonth (Calendar.isLeapYear d.year) d.month + (d.day - 1 : Int)

/-- The date of a day number. -/
def ofDayNumber (n : Int) : Date :=
  let day := n + Calendar.epochDay
  let year := Calendar.yearOfDay day
  let dayOfYear := (day - Calendar.daysBeforeYear year).toNat
  let (month, day) :=
    Calendar.monthAndDay 1 dayOfYear (Calendar.monthLengths (Calendar.isLeapYear year))
  ⟨year, month, day⟩

end Date

end Gatehouse
