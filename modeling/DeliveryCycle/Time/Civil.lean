/-!
# Dates of the calendar

A day is counted from the first of January of the year 1, which is day zero, in the Gregorian
calendar carried back to that year. `Date.ofDay` and `Date.toDay` go from the count to year, month
and day and back.
-/

namespace DeliveryCycle.Time

structure Date where
  year : Nat
  month : Nat
  day : Nat
deriving DecidableEq, Repr

def isLeapYear (year : Nat) : Bool :=
  year % 4 = 0 && (year % 100 ≠ 0 || year % 400 = 0)

def daysInMonth (year month : Nat) : Nat :=
  if month = 2 then if isLeapYear year then 29 else 28
  else if month = 4 || month = 6 || month = 9 || month = 11 then 30
  else 31

def daysBeforeYear (year : Nat) : Nat :=
  let past := year - 1
  past * 365 + past / 4 - past / 100 + past / 400

/-- The number of days of a year before the first of a month. -/
def daysBeforeMonth (year : Nat) : (month : Nat) → Nat
  | 0 | 1 => 0
  | month + 1 => daysBeforeMonth year month + daysInMonth year month

def Date.toDay (date : Date) : Nat :=
  daysBeforeYear date.year + daysBeforeMonth date.year date.month + (date.day - 1)

/-- The year that holds a day: a close guess from the mean length, and one step if it is late. -/
def yearOfDay (day : Nat) : Nat :=
  let guess := day * 400 / 146097 + 1
  if day < daysBeforeYear guess then guess - 1
  else if daysBeforeYear (guess + 1) ≤ day then guess + 1
  else guess

/-- The month and the day of the month, for a day counted from the start of its year. -/
def monthOfDay (year : Nat) : (months : Nat) → (day : Nat) → Nat × Nat
  | 0, day => (12, day + 1)
  | months + 1, day =>
      let month := 12 - months
      if day < daysInMonth year month then (month, day + 1)
      else monthOfDay year months (day - daysInMonth year month)

def Date.ofDay (day : Nat) : Date :=
  let year := yearOfDay day
  let (month, dayOfMonth) := monthOfDay year 12 (day - daysBeforeYear year)
  { year, month, day := dayOfMonth }

end DeliveryCycle.Time
