import TableFlow.Calendar.Clock
import TableFlow.Decimal.Digits

/-!
# Dates and times in ISO 8601 form

The extended form: `2024-03-01`, `10:30:00`, `2024-03-01T10:30:00`, with six digits of fraction
unless they are zero, and with the offset if there is one.
-/

namespace TableFlow.Calendar

open Decimal (paddedNumeral)

def Date.isoChars (d : Date) : List Char :=
  paddedNumeral 4 d.year ++ '-' :: (paddedNumeral 2 d.month ++ '-' :: paddedNumeral 2 d.day)

/-- A fraction of a second, empty if it is zero. -/
def fractionChars (microsecond : Nat) : List Char :=
  if microsecond = 0 then [] else '.' :: paddedNumeral 6 microsecond

/-- Hours, minutes and seconds. -/
def hmsChars (hour minute second : Nat) : List Char :=
  paddedNumeral 2 hour ++ ':' :: (paddedNumeral 2 minute ++ ':' :: paddedNumeral 2 second)

def Clock.isoChars (c : Clock) : List Char :=
  hmsChars c.hour c.minute c.second ++ fractionChars c.microsecond

/-- An offset shows its seconds only if they are not zero. -/
def Offset.isoChars (o : Offset) : List Char :=
  let size := o.microseconds.natAbs
  let seconds := size / microsecondsPerSecond
  let fraction := size % microsecondsPerSecond
  let sign := if o.microseconds < 0 then '-' else '+'
  if seconds % 60 = 0 ∧ fraction = 0 then
    sign :: (paddedNumeral 2 (seconds / 3600) ++ ':' :: paddedNumeral 2 (seconds / 60 % 60))
  else
    sign :: (hmsChars (seconds / 3600) (seconds / 60 % 60) (seconds % 60) ++ fractionChars fraction)

def offsetChars : Option Offset → List Char
  | none => []
  | some o => o.isoChars

def DateTime.isoChars (t : DateTime) : List Char :=
  t.date.isoChars ++ 'T' :: (t.clock.isoChars ++ offsetChars t.offset)

def TimeOfDay.isoChars (t : TimeOfDay) : List Char := t.clock.isoChars ++ offsetChars t.offset

def Date.isoText (d : Date) : String := String.ofList d.isoChars
def DateTime.isoText (t : DateTime) : String := String.ofList t.isoChars
def TimeOfDay.isoText (t : TimeOfDay) : String := String.ofList t.isoChars

end TableFlow.Calendar
