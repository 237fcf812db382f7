import TableFlow.Binary64.Arithmetic
import TableFlow.Binary64.Order
import TableFlow.Calendar.Clock

/-!
# Serial numbers of dates and times

A workbook stores a date and time as a number of days since 1899-12-30, a time of day as a fraction
of a day. The numbers 1 to 59 are shifted by one day, so that the days of January and February 1900
are counted from 1; day 60, which never was, has no number. Times are read back to the millisecond,
and numbers below 1 are read back as times of day.
-/

namespace TableFlow.Sheet

open Calendar (Date DateTime Clock TimeOfDay microsecondsPerDay)

/-- The day from which days are counted. -/
def firstDay : Nat := 693594

def secondsPerDay : Nat := 86400

/-- The seconds of a time of day without its microseconds. -/
def wholeSeconds (c : Clock) : Nat := (c.hour * 60 + c.minute) * 60 + c.second

/-- A time of day as a fraction of a day. -/
def clockSerial (c : Clock) : Binary64 :=
  let fraction := Binary64.nearestInt c.microsecond / Binary64.nearestInt 1000000
  (Binary64.nearestInt (wholeSeconds c) + fraction) / Binary64.nearestInt secondsPerDay

/-- The days from the first day to a date, days up to 60 counted from zero. -/
def daySerial (d : Date) : Int :=
  let days := (d.dayNumber : Int) - firstDay
  if 0 < days ∧ days ≤ 60 then days - 1 else days

/-- The number of a date and time. -/
def momentSerial (t : DateTime) : Binary64 :=
  Binary64.nearestInt (daySerial t.date) + clockSerial t.clock

/-- The whole days of a number, and the rest of the day. -/
def splitDays (x : Binary64) : Int × Binary64 :=
  let days := x.truncate?.getD 0
  let rest := (x.rem? (Binary64.nearestInt 1)).getD .zero
  if rest.lt .zero then (days - 1, rest + Binary64.nearestInt 1) else (days, rest)

/-- The nearest whole number to a number that is not negative. -/
def roundUnsigned (x : Binary64) : Nat :=
  match x with
  | .finite _ units _ => nearest units Binary64.unitsPerOne
  | _ => 0

/-- A fraction of a day in milliseconds. -/
def milliseconds (fraction : Binary64) : Nat :=
  roundUnsigned (fraction * Binary64.nearestInt secondsPerDay * Binary64.nearestInt 1000)

def millisecondsPerDay : Nat := secondsPerDay * 1000

/-- What a number of a date or time is read as. -/
inductive Reading where
  | time (t : TimeOfDay)
  | moment (t : DateTime)

/-- Reads the number of a date or of a time; none if it lies outside the calendar. -/
def readSerial? (x : Binary64) : Option Reading :=
  let (day, fraction) := splitDays x
  let ms := milliseconds fraction
  let one := Binary64.nearestInt 1
  if Binary64.le .zero x && x.lt one && decide (ms < millisecondsPerDay) then
    (Clock.ofMicroseconds? (ms * 1000)).map fun clock => .time ⟨clock, none⟩
  else do
    let shifted := if Binary64.lt .zero x && x.lt (Binary64.nearestInt 60) then day + 1 else day
    let days := shifted + ms / millisecondsPerDay
    let date ← Date.ofDayNumber? (days + firstDay).toNat
    let clock ← Clock.ofMicroseconds? (ms % millisecondsPerDay * 1000)
    some (.moment ⟨date, clock, none⟩)

end TableFlow.Sheet
