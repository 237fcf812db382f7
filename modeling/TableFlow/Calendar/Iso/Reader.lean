import TableFlow.Calendar.Clock
import TableFlow.Nearest

/-!
# Reading dates and times in ISO 8601 form

Accepted are the extended and the basic form, calendar dates and week dates, any single character
between date and time, a comma or a point before the fraction, any number of digits of fraction of
which six count, and `Z` or an offset at the end. Days of the year and the hour 24 are not accepted.

Where a text mixes the forms, the reader is lenient in a few places: one ASCII character may stand
between a field and an offset, and a colon may introduce the fraction. The end of the text counts as
a NUL character. An offset may have a fraction of a second too, but one without a whole second is
read as that of UTC.
-/

namespace TableFlow.Calendar

/-- The character at the start of a text; the end of the text counts as NUL. -/
def headChar (cs : List Char) : Char := cs.headD '\x00'

def isAsciiDigit (c : Char) : Bool := '0' ≤ c && c ≤ '9'

/-- The number that exactly `count` digits at the start of a text denote, and what follows. -/
def readDigits? : Nat → List Char → Option (Nat × List Char)
  | count, cs =>
    let ds := cs.take count
    if ds.length = count ∧ ds.all isAsciiDigit then
      some (ds.foldl (fun n c => 10 * n + (c.toNat - '0'.toNat)) 0, cs.drop count)
    else
      none

/-- Reads a character. -/
def readChar? (expected : Char) : List Char → Option (List Char)
  | c :: rest => if c = expected then some rest else none
  | [] => none

/-- The number of characters of the date part. In `YYYY-Www-##` the date ends before the second
hyphen; after `YYYYWww` an even count of digits that follow belongs to the time. -/
def datePartLength (cs : List Char) : Nat :=
  if cs.length = 7 then 7
  else if headChar (cs.drop 4) = '-' then
    if headChar (cs.drop 5) = 'W' then
      if headChar (cs.drop 8) = '-' then
        if isAsciiDigit (headChar (cs.drop 10)) then 8 else 10
      else 8
    else 10
  else if headChar (cs.drop 4) = 'W' then
    let stop := 7 + ((cs.drop 7).takeWhile isAsciiDigit).length
    if stop < 9 then stop else if stop % 2 = 0 then 7 else 8
  else 8

/-- The week and the day of a week date after its `W`; without a day it is Monday. -/
def readWeek? (separated : Bool) (cs : List Char) : Option (Nat × Nat) := do
  let (week, rest) ← readDigits? 2 cs
  match rest with
  | [] => some (week, 1)
  | rest =>
      let rest ← if separated then readChar? '-' rest else some rest
      let (day, _) ← readDigits? 1 rest
      some (week, day)

/-- Reads the date part. -/
def readDate? (cs : List Char) : Option Date := do
  let (year, rest) ← readDigits? 4 cs
  let separated := headChar rest = '-'
  let rest := if separated then rest.drop 1 else rest
  if headChar rest = 'W' then
    let (week, day) ← readWeek? separated (rest.drop 1)
    Date.ofWeek? year week day
  else
    let (month, rest) ← readDigits? 2 rest
    let rest ← if separated then readChar? '-' rest else some rest
    let (day, rest) ← readDigits? 2 rest
    if rest.isEmpty then Date.ofYmd? year month day else none

/-- Hours, minutes, seconds and microseconds as they were read. -/
structure ClockReading where
  fields : List Nat
  microsecond : Nat
  /-- Nothing but digits of the fraction follows. -/
  complete : Bool

/-- Reads the digits of a fraction of which at most six, and none outside the part itself, count.
`rest` is the text from there on, `length` the length of the part. -/
def readFraction? (length : Nat) (rest : List Char) : Option (Nat × Bool) := do
  let count := min length 6
  let (digits, after) ← readDigits? count rest
  let tail := after.dropWhile isAsciiDigit
  some (digits * 10 ^ (6 - count), headChar tail == '\x00')

/-- Reads up to three fields of two digits and a fraction. `length` is the length of the part that
is read; `rest` is the text from its start on, which may be longer. -/
def readFields? (separated : Option Bool) (fields : List Nat) (length : Nat) (rest : List Char) :
    Nat → Option ClockReading
  | 0 => do
      let (microsecond, complete) ← readFraction? length rest
      some ⟨fields, microsecond, complete⟩
  | count + 1 => do
      let (field, after) ← readDigits? 2 rest
      let fields := fields ++ [field]
      let c := headChar after
      let separated := separated.getD (c = ':')
      if length ≤ 3 then
        if c.toNat < 128 then some ⟨fields, 0, c == '\x00'⟩ else none
      else if separated && c = ':' then
        readFields? separated fields (length - 3) (after.drop 1) count
      else if c = '.' || c = ',' then do
        let (microsecond, complete) ← readFraction? (length - 3) (after.drop 1)
        some ⟨fields, microsecond, complete⟩
      else if separated then
        none
      else
        readFields? separated fields (length - 2) after count

/-- Reads a clock time or the size of an offset in the first `length` characters of a text. -/
def readClock? (length : Nat) (cs : List Char) : Option ClockReading :=
  readFields? none [] length cs 3

/-- The whole seconds of the fields that were read. -/
def ClockReading.seconds (r : ClockReading) : Nat :=
  (r.fields.getD 0 0 * 60 + r.fields.getD 1 0) * 60 + r.fields.getD 2 0

def ClockReading.microseconds (r : ClockReading) : Nat :=
  r.seconds * microsecondsPerSecond + r.microsecond

def ClockReading.toClock? (r : ClockReading) : Option Clock :=
  Clock.ofParts? (r.fields.getD 0 0) (r.fields.getD 1 0) (r.fields.getD 2 0) r.microsecond

/-- The offset of the size that was read. The fraction counts only if there are whole seconds. -/
def ClockReading.toOffset? (negative : Bool) (r : ClockReading) : Option Offset :=
  if r.seconds = 0 then some .utc
  else Offset.ofMicroseconds? (if negative then -(r.microseconds : Int) else r.microseconds)

/-- Tells if a character starts an offset. -/
def startsOffset (c : Char) : Bool := c = '+' || c = '-' || c = 'Z'

/-- Reads an offset that is the whole text. -/
def readOffset? : List Char → Option Offset
  | 'Z' :: rest => if headChar rest = '\x00' then some .utc else none
  | sign :: rest => do
      let reading ← readClock? rest.length rest
      if reading.complete then reading.toOffset? (sign = '-') else none
  | [] => none

/-- Reads the time part: a clock time and possibly an offset. -/
def readTimeOfDay? (cs : List Char) : Option TimeOfDay := do
  let length := (cs.takeWhile (!startsOffset ·)).length
  let reading ← readClock? length cs
  match cs.drop length with
  | [] => if reading.complete then some ⟨← reading.toClock?, none⟩ else none
  | rest =>
      let offset ← readOffset? rest
      some ⟨← reading.toClock?, some offset⟩

/-- Reads a date, or a date and a time with a character between them. -/
def DateTime.ofIso? (cs : List Char) : Option DateTime := do
  let length := datePartLength cs
  let date ← readDate? (cs.take length)
  match cs.drop length with
  | [] => some date.midnight
  | _ :: rest => do
      let time ← readTimeOfDay? rest
      some ⟨date, time.clock, time.offset⟩

/-- Reads a date without a time. -/
def Date.ofIso? (cs : List Char) : Option Date := readDate? cs

/-- Reads a time of day. -/
def TimeOfDay.ofIso? (cs : List Char) : Option TimeOfDay := readTimeOfDay? cs

end TableFlow.Calendar
