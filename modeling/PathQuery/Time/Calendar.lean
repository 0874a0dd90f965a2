/-!
The Gregorian calendar, extended to all years: days counted from 1 January 1970, the day of the
year, the day of the week, weeks of the year and calendar months.
-/

namespace PathQuery.Time

/-- A day of the calendar, by year, month (from one) and day of the month (from one). -/
structure Day where
  year : Int
  month : Nat
  day : Nat
deriving DecidableEq

def isLeapYear (year : Int) : Bool :=
  year % 4 == 0 && (year % 100 != 0 || year % 400 == 0)

def monthLengths (year : Int) : List Nat :=
  [31, if isLeapYear year then 29 else 28, 31, 30, 31, 30, 31, 31, 30, 31, 30, 31]

def monthLength (year : Int) (month : Nat) : Nat :=
  (monthLengths year).getD (month - 1) 0

def yearLength (year : Int) : Nat :=
  if isLeapYear year then 366 else 365

def daysBeforeYear (year : Int) : Int :=
  let past := year - 1
  past * 365 + past / 4 - past / 100 + past / 400

def daysBeforeMonth (year : Int) (month : Nat) : Nat :=
  ((monthLengths year).take (month - 1)).foldr (· + ·) 0

/-- The days from 1 January of year 1 to 1 January 1970. -/
def epochDays : Int := daysBeforeYear 1970

/-- The years for which instants exist. -/
def minYear : Int := -262143

def maxYear : Int := 262142

namespace Day

def ofCivil? (year : Int) (month day : Nat) : Option Day :=
  if minYear ≤ year && year ≤ maxYear && 1 ≤ month && month ≤ 12 && 1 ≤ day &&
      day ≤ monthLength year month then
    some ⟨year, month, day⟩
  else none

/-- The number of a day within its year, from one. -/
def ordinal (d : Day) : Nat :=
  daysBeforeMonth d.year d.month + d.day

def number (d : Day) : Int :=
  daysBeforeYear d.year - epochDays + d.ordinal - 1

/-- The month that a day of the year lies in and the day of that month, by the lengths of the
months from `month` on. -/
def inMonth (month : Nat) : List Nat → Nat → Nat × Nat
  | [], ordinal => (month, ordinal)
  | length :: lengths, ordinal =>
      if ordinal ≤ length then (month, ordinal) else inMonth (month + 1) lengths (ordinal - length)

/-- The day with the given number within its year. -/
def ofOrdinal (year : Int) (ordinal : Nat) : Day :=
  let (month, day) := inMonth 1 (monthLengths year) ordinal
  ⟨year, month, day⟩

def ofOrdinal? (year : Int) (ordinal : Nat) : Option Day :=
  if minYear ≤ year && year ≤ maxYear && 1 ≤ ordinal && ordinal ≤ yearLength year then
    some (ofOrdinal year ordinal)
  else none

/-- The year in which the day lies that follows 1 January of year 1 by the given number of days. -/
def yearOf (days : Int) : Int :=
  let guess := days * 400 / 146097 + 1
  if days < daysBeforeYear guess then guess - 1
  else if daysBeforeYear (guess + 1) ≤ days then guess + 1
  else guess

def ofNumber (number : Int) : Day :=
  let days := number + epochDays
  let year := yearOf days
  ofOrdinal year (days - daysBeforeYear year).toNat.succ

/-- The day of the week, counted from Monday, which is zero. -/
def weekday (d : Day) : Nat :=
  ((d.number + 3) % 7).toNat

/-- The number of the week whose first day is the given weekday. Days before the first such day of
the year lie in week zero. -/
def weekFrom (d : Day) (first : Nat) : Nat :=
  (d.ordinal + 6 - (d.weekday + 7 - first) % 7) / 7

/-- The year and the number of the week from Monday on that holds most of its days in that year. -/
def isoWeek (d : Day) : Int × Nat :=
  let thursday := ofNumber (d.number + 3 - d.weekday)
  (thursday.year, (thursday.ordinal + 6) / 7)

def ofIsoWeek? (year : Int) (week weekday : Nat) : Option Day :=
  let fourth : Day := ⟨year, 1, 4⟩
  let d := ofNumber (fourth.number - fourth.weekday + (week - 1) * 7 + weekday)
  if 1 ≤ week && d.isoWeek == (year, week) && minYear ≤ d.year && d.year ≤ maxYear then some d
  else none

def quarter (d : Day) : Nat :=
  (d.month - 1) / 3 + 1

/-- The day a number of months later. A day that the month does not have becomes its last one. -/
def addMonths? (d : Day) (months : Nat) : Option Day :=
  let total := d.year * 12 + d.month - 1 + months
  let year := total / 12
  let month := (total % 12).toNat + 1
  ofCivil? year month (min d.day (monthLength year month))

end Day

def monthNames : List String :=
  ["January", "February", "March", "April", "May", "June", "July", "August", "September", "October",
    "November", "December"]

def weekdayNames : List String :=
  ["Monday", "Tuesday", "Wednesday", "Thursday", "Friday", "Saturday", "Sunday"]

end PathQuery.Time
