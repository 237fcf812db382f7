/-!
# Calendar dates

Dates of the Gregorian calendar from the year 1 to the year 9999, counted by days: day 1 is
0001-01-01. Weeks of the ISO 8601 calendar begin on Monday, and the first week of a year is the one
that holds its first Thursday.
-/

namespace TableFlow.Calendar

def isLeapYear (year : Nat) : Bool := year % 4 == 0 && (year % 100 != 0 || year % 400 == 0)

/-- The number of days of a month, zero if there is no such month. -/
def daysInMonth (year : Nat) : Nat → Nat
  | 1 | 3 | 5 | 7 | 8 | 10 | 12 => 31
  | 4 | 6 | 9 | 11 => 30
  | 2 => if isLeapYear year then 29 else 28
  | _ => 0

/-- The numbers that name a day. -/
def IsDate (year month day : Nat) : Prop :=
  (1 ≤ year ∧ year ≤ 9999) ∧ 1 ≤ day ∧ day ≤ daysInMonth year month

instance (year month day : Nat) : Decidable (IsDate year month day) := by
  unfold IsDate
  infer_instance

/-- A calendar date. -/
structure Date where
  year : Nat
  month : Nat
  day : Nat
  isDate : IsDate year month day
deriving DecidableEq

def Date.ofYmd? (year month day : Nat) : Option Date :=
  if h : IsDate year month day then some ⟨year, month, day, h⟩ else none

/-- The number of days before a year. -/
def daysBeforeYear (year : Nat) : Nat :=
  let past := year - 1
  past * 365 + past / 4 - past / 100 + past / 400

/-- The number of days of a year before a month. -/
def daysBeforeMonth (year month : Nat) : Nat :=
  (List.range month).foldl (fun days earlier => days + daysInMonth year earlier) 0

/-- The place of a date in the count of days, in which 0001-01-01 is day 1. -/
def Date.dayNumber (d : Date) : Nat :=
  daysBeforeYear d.year + daysBeforeMonth d.year d.month + d.day

/-- The date of a day. No year is shorter than 365 days, and the leap days up to the year 9999 fill
less than seven years, so eight candidates are enough to find the year. -/
def Date.ofDayNumber? (n : Nat) : Option Date := do
  let latest := n / 365 + 1
  let year ← ((List.range 8).map (latest - ·)).find? fun year => daysBeforeYear year < n
  let rest := n - daysBeforeYear year
  let month ← [12, 11, 10, 9, 8, 7, 6, 5, 4, 3, 2, 1].find? fun month =>
    daysBeforeMonth year month < rest
  Date.ofYmd? year month (rest - daysBeforeMonth year month)

/-- The day before the first Monday of the first week of a year, which may lie before day 1. -/
def dayBeforeFirstWeek (year : Nat) : Int :=
  let newYear : Int := daysBeforeYear year + 1
  let weekday := (newYear + 6) % 7
  let monday := newYear - weekday
  if weekday > 3 then monday + 6 else monday - 1

/-- The number of weeks of a year. -/
def weeksInYear (year : Nat) : Nat :=
  let weekday := (daysBeforeYear year + 1) % 7
  if weekday = 4 ∨ (weekday = 3 ∧ isLeapYear year) then 53 else 52

/-- The date of a day of a week; Monday is day 1. -/
def Date.ofWeek? (year week day : Nat) : Option Date :=
  if 1 ≤ year ∧ year ≤ 9999 ∧ 1 ≤ week ∧ week ≤ weeksInYear year ∧ 1 ≤ day ∧ day ≤ 7 then
    Date.ofDayNumber? (dayBeforeFirstWeek year + ((week : Int) - 1) * 7 + day).toNat
  else
    none

/-- The day 1970-01-01, from which days and seconds are counted in columns of one type. -/
def epochDay : Nat := 719163

end TableFlow.Calendar
