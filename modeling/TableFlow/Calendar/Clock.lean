import TableFlow.Calendar.Date

/-!
# Times of day, offsets and moments

A `Clock` is a time of day to the microsecond, an `Offset` a distance from UTC of less than a day.
A `DateTime` is a date with a clock time and possibly an offset, a `TimeOfDay` a clock time with
possibly an offset.
-/

namespace TableFlow.Calendar

/-- A time of day. -/
structure Clock where
  hour : Nat
  minute : Nat
  second : Nat
  microsecond : Nat
  isClock : hour < 24 ∧ minute < 60 ∧ second < 60 ∧ microsecond < 1000000
deriving DecidableEq

def Clock.ofParts? (hour minute second microsecond : Nat) : Option Clock :=
  if h : hour < 24 ∧ minute < 60 ∧ second < 60 ∧ microsecond < 1000000 then
    some ⟨hour, minute, second, microsecond, h⟩
  else
    none

/-- The start of a day. -/
def Clock.midnight : Clock := ⟨0, 0, 0, 0, by decide⟩

def microsecondsPerSecond : Nat := 1000000

def microsecondsPerDay : Nat := 86400 * microsecondsPerSecond

/-- The microseconds since the start of the day. -/
def Clock.microseconds (c : Clock) : Nat :=
  ((c.hour * 60 + c.minute) * 60 + c.second) * microsecondsPerSecond + c.microsecond

/-- The time at a number of microseconds after the start of the day, if the day is that long. -/
def Clock.ofMicroseconds? (n : Nat) : Option Clock :=
  let seconds := n / microsecondsPerSecond
  Clock.ofParts? (seconds / 3600) (seconds / 60 % 60) (seconds % 60) (n % microsecondsPerSecond)

/-- A distance from UTC, less than a day to either side. -/
structure Offset where
  microseconds : Int
  lt_day : microseconds.natAbs < microsecondsPerDay
deriving DecidableEq

def Offset.utc : Offset := ⟨0, by decide⟩

def Offset.ofMicroseconds? (n : Int) : Option Offset :=
  if h : n.natAbs < microsecondsPerDay then some ⟨n, h⟩ else none

/-- A date with a time of day. -/
structure DateTime where
  date : Date
  clock : Clock
  offset : Option Offset
deriving DecidableEq

/-- A time of day with the offset it is given for. -/
structure TimeOfDay where
  clock : Clock
  offset : Option Offset
deriving DecidableEq

/-- The start of a date. -/
def Date.midnight (d : Date) : DateTime := ⟨d, .midnight, none⟩

/-- The microseconds from 1970-01-01 to a moment, the offset taken off. -/
def DateTime.epochMicroseconds (t : DateTime) : Int :=
  ((t.date.dayNumber : Int) - epochDay) * microsecondsPerDay + t.clock.microseconds -
    (t.offset.map (·.microseconds)).getD 0

/-- The moment at a number of microseconds after 1970-01-01, shown with an offset. -/
def DateTime.ofEpochMicroseconds? (n : Int) (offset : Option Offset) : Option DateTime := do
  let shown := n + (offset.map (·.microseconds)).getD 0
  let day := shown.fdiv microsecondsPerDay + epochDay
  let date ← Date.ofDayNumber? day.toNat
  let clock ← Clock.ofMicroseconds? (shown.fmod microsecondsPerDay).toNat
  some ⟨date, clock, offset⟩

end TableFlow.Calendar
