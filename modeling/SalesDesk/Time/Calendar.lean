/-!
# Calendar

Days of the Gregorian calendar, extended backwards, counted from day 0 = Monday, 1 January of
year 1. A week belongs to the year of its Thursday and is numbered from 1 within that year.
-/

namespace SalesDesk.Calendar

structure Date where
  year : Nat
  month : Nat
  day : Nat
  deriving DecidableEq, Repr

def isLeap (year : Nat) : Bool := year % 4 == 0 && (year % 100 != 0 || year % 400 == 0)

/-- The number of days before the first day of a year. -/
def daysBeforeYear (year : Nat) : Nat :=
  let y := year - 1
  y * 365 + y / 4 - y / 100 + y / 400

def monthLengths (year : Nat) : List Nat :=
  [31, if isLeap year then 29 else 28, 31, 30, 31, 30, 31, 31, 30, 31, 30, 31]

/-- The number of days before the first day of a month in its year. -/
def daysBeforeMonth (year month : Nat) : Nat := ((monthLengths year).take (month - 1)).foldl (· + ·) 0

/-- The year a day lies in, found through the cycles of 400, 100, 4 and 1 years. -/
def yearOf (day : Nat) : Nat :=
  let in400 := day % 146097
  let centuries := min 3 (in400 / 36524)
  let in100 := in400 - centuries * 36524
  let in4 := in100 % 1461
  let years := min 3 (in4 / 365)
  day / 146097 * 400 + centuries * 100 + in100 / 1461 * 4 + years + 1

/-- The month and the day of the month of a day counted from 0 within the months given. -/
def monthAndDay (month day : Nat) : List Nat → Nat × Nat
  | [] => (month, day + 1)
  | length :: rest =>
    if day < length then (month, day + 1) else monthAndDay (month + 1) (day - length) rest

def dateOf (day : Nat) : Date :=
  let year := yearOf day
  let (month, dayOfMonth) := monthAndDay 1 (day - daysBeforeYear year) (monthLengths year)
  ⟨year, month, dayOfMonth⟩

def lastYear : Nat := 9999

def dayCount : Nat := daysBeforeYear (lastYear + 1)

/-- Does a date name a day of its year, whether the calendar holds that year or not? -/
def Date.isDayOfYear (d : Date) : Bool :=
  decide (1 ≤ d.month ∧ d.month ≤ 12 ∧ 1 ≤ d.day ∧
    d.day ≤ (monthLengths d.year).getD (d.month - 1) 0)

/-- The day with a date, if there is such a date. -/
def Date.toDay? (d : Date) : Option Nat :=
  if 1 ≤ d.year ∧ d.year ≤ lastYear ∧ d.isDayOfYear then
    some (daysBeforeYear d.year + daysBeforeMonth d.year d.month + (d.day - 1))
  else none

/-- The day of the week, from 0 for Monday to 6 for Sunday. -/
def weekday (day : Nat) : Nat := day % 7

structure Week where
  year : Nat
  number : Nat
  deriving DecidableEq, Repr

namespace Week

/-- Weeks are ordered by year and then by number. -/
def before (a b : Week) : Bool :=
  a.year < b.year || (a.year == b.year && a.number < b.number)

end Week

def weekOf (day : Nat) : Week :=
  let thursday := day - weekday day + 3
  let year := yearOf thursday
  ⟨year, (thursday - daysBeforeYear year) / 7 + 1⟩

end SalesDesk.Calendar
