import TableFlow.Binary64.Order
import TableFlow.Calendar.Clock
import TableFlow.Calendar.Iso.Reader
import TableFlow.Cell.Basic
import TableFlow.Decimal.Literal

/-!
# Values of delimited text

The fields of a column are read by the first reader of `readers` that reads all of them; fields
without characters are missing. If none does, the fields are texts. The readers and their order are
those in which Arrow's reader of delimited text documents that it infers the type of a column.
-/

namespace TableFlow.Delimited

open Calendar (Date DateTime Clock Offset TimeOfDay)
open Calendar (readDigits? readChar?)

/-- Tells if a character may stand around a number. -/
def isPadding (c : Char) : Bool := c = ' ' || c = '\t'

/-- A field without the padding of a number. -/
def trimPadding (cs : List Char) : List Char :=
  ((cs.dropWhile isPadding).reverse.dropWhile isPadding).reverse

def isAsciiDigit (c : Char) : Bool := '0' ≤ c && c ≤ '9'

/-- A whole number of 64 bits. -/
def checkedInt64? (n : Int) : Option Int := if -2 ^ 63 ≤ n ∧ n < 2 ^ 63 then some n else none

/-- Reads a numeral of decimal digits with an optional minus sign. -/
def readDecimal? (cs : List Char) : Option Int :=
  let (negative, ds) := match cs with
    | '-' :: rest => (true, rest)
    | cs => (false, cs)
  if !ds.isEmpty && ds.all isAsciiDigit then
    checkedInt64? (Binary64.signedUnits negative (Decimal.ofDigits (ds.map Decimal.digitValue)))
  else
    none

/-- The value of a hexadecimal digit. -/
def hexDigit? (c : Char) : Option Nat :=
  if isAsciiDigit c then some (c.toNat - '0'.toNat)
  else if 'a' ≤ c && c ≤ 'f' then some (c.toNat - 'a'.toNat + 10)
  else if 'A' ≤ c && c ≤ 'F' then some (c.toNat - 'A'.toNat + 10)
  else none

/-- Reads a numeral of at most sixteen hexadecimal digits, the bits of a whole number. -/
def readHexadecimal? (ds : List Char) : Option Int := do
  if ds.length > 16 then
    none
  else
    let values ← ds.mapM hexDigit?
    let bits : Nat := values.foldl (fun n d => 16 * n + d) 0
    some (if bits < 2 ^ 63 then (bits : Int) else (bits : Int) - 2 ^ 64)

def readWhole? (cs : List Char) : Option Cell :=
  let digits := trimPadding cs
  (match digits with
    | '0' :: 'x' :: d :: rest => readHexadecimal? (d :: rest)
    | '0' :: 'X' :: d :: rest => readHexadecimal? (d :: rest)
    | digits => readDecimal? digits).map .int

def trueNames : List String := ["1", "true", "True", "TRUE"]

def falseNames : List String := ["0", "false", "False", "FALSE"]

def readBoolean? (cs : List Char) : Option Cell :=
  let name := String.ofList cs
  if name ∈ trueNames then some (.bool true)
  else if name ∈ falseNames then some (.bool false)
  else none

/-- Reads a date and what follows it. -/
def readDate? (cs : List Char) : Option (Date × List Char) := do
  let (year, rest) ← readDigits? 4 cs
  let rest ← readChar? '-' rest
  let (month, rest) ← readDigits? 2 rest
  let rest ← readChar? '-' rest
  let (day, rest) ← readDigits? 2 rest
  let date ← Date.ofYmd? year month day
  some (date, rest)

def readDateCell? (cs : List Char) : Option Cell :=
  match readDate? cs with
  | some (date, []) => some (.date date)
  | _ => none

/-- Reads a part of a time after a colon; the part is zero where the text ends. -/
def readPart? (cs : List Char) : Option (Nat × List Char) :=
  match cs with
  | [] => some (0, [])
  | ':' :: rest => readDigits? 2 rest
  | _ => none

/-- Reads a fraction of a second of at most nine digits, in microseconds. -/
def readFraction? (cs : List Char) : Option Nat :=
  match cs with
  | [] => some 0
  | '.' :: ds =>
      if !ds.isEmpty && ds.length ≤ 9 && ds.all isAsciiDigit then
        some (Decimal.ofDigits (ds.map Decimal.digitValue) * 10 ^ (9 - ds.length) / 1000)
      else
        none
  | _ => none

/-- Reads a time of day that starts with an hour. `fractional` tells if it may have a fraction. -/
def readClock? (fractional : Bool) (cs : List Char) : Option Clock := do
  let (hour, rest) ← readDigits? 2 cs
  let (minute, rest) ← readPart? rest
  let (second, rest) ← if rest.head? = some '.' then none else readPart? rest
  let microsecond ← if fractional then readFraction? rest else if rest.isEmpty then some 0 else none
  Clock.ofParts? hour minute second microsecond

/-- Reads a time of day of at least hours and minutes. -/
def readTime? (cs : List Char) : Option Cell :=
  if cs.length = 5 ∨ cs.length = 8 then
    (readClock? false cs).map fun clock => .time ⟨clock, none⟩
  else
    none

/-- The offset in minutes that hours and minutes with a sign give. -/
def zoneMinutes? (sign : Char) (hour minute : List Char) : Option Int := do
  let (h, _) ← readDigits? 2 hour
  let (m, _) ← readDigits? 2 minute
  if h < 24 ∧ m < 60 then some (if sign = '-' then -(60 * h + m : Nat) else (60 * h + m : Nat))
  else none

def isSign (c : Char) : Bool := c = '+' || c = '-'

/-- A time without the offset at its end, and the offset in minutes if there is one. -/
def splitZone (cs : List Char) : List Char × Option Int :=
  let found := match cs.reverse with
    | 'Z' :: before => some (before, 0)
    | m₂ :: m₁ :: ':' :: h₂ :: h₁ :: sign :: before =>
        if isSign sign then
          (zoneMinutes? sign [h₁, h₂] [m₁, m₂]).map ((before, ·))
        else
          none
    | _ => none
  let compact := match cs.reverse with
    | m₂ :: m₁ :: h₂ :: h₁ :: sign :: before =>
        if isSign sign then (zoneMinutes? sign [h₁, h₂] [m₁, m₂]).map ((before, ·)) else none
    | _ => none
  let short := match cs.reverse with
    | h₂ :: h₁ :: sign :: before =>
        if isSign sign then (zoneMinutes? sign [h₁, h₂] ['0', '0']).map ((before, ·)) else none
    | _ => none
  match (found.or compact).or short with
  | some (before, minutes) => (before.reverse, some minutes)
  | none => (cs, none)

/-- The time of day after a date, midnight if nothing follows the date. -/
def readClockAfterDate? (fractional : Bool) (rest : List Char) : Option (Clock × Option Int) :=
  match rest with
  | [] => some (.midnight, none)
  | separator :: time =>
      if separator = ' ' ∨ separator = 'T' then do
        let (clock, zone) := splitZone time
        let clock ← readClock? fractional clock
        some (clock, zone)
      else
        none

/-- Reads a moment without an offset. -/
def readMoment? (fractional : Bool) (cs : List Char) : Option Cell := do
  let (date, rest) ← readDate? cs
  match ← readClockAfterDate? fractional rest with
  | (clock, none) => some (.dateTime ⟨date, clock, none⟩)
  | _ => none

/-- Reads a moment with an offset as a moment in UTC. -/
def readZonedMoment? (cs : List Char) : Option Cell := do
  let (date, rest) ← readDate? cs
  match ← readClockAfterDate? true rest with
  | (clock, some minutes) => do
      let shown : DateTime := ⟨date, clock, none⟩
      let moment ← DateTime.ofEpochMicroseconds?
        (shown.epochMicroseconds - minutes * 60 * Calendar.microsecondsPerSecond) (some .utc)
      some (.dateTime moment)
  | _ => none

/-- Reads a number that has a name, after its sign. -/
def readNamedNumber? (cs : List Char) : Option Binary64 :=
  let (negative, rest) := Decimal.spanSign cs
  let name := (String.ofList rest).toLower
  if name = "nan" then some .nan
  else if name = "inf" ∨ name = "infinity" then some (.infinite negative)
  else none

/-- Reads a decimal number. One that is too large for the format, or so small that it would be
zero, is not a number. -/
def readLiteral? (cs : List Char) : Option Binary64 := do
  if cs.all fun c => c.toNat < 128 then
    let literal ← Decimal.Literal.read? cs
    let x := literal.toBinary64
    let vanishes := x.isZero && literal.digits.any (· != 0)
    if x.isFinite && !vanishes then some x else none
  else
    none

def readBinary64? (cs : List Char) : Option Cell :=
  let numeral := trimPadding cs
  ((readLiteral? numeral).or (readNamedNumber? numeral)).map .float

/-- The readers of fields in the order in which they are tried. -/
def readers : List (List Char → Option Cell) := [
  readWhole?, readBoolean?, readDateCell?, readTime?, readMoment? false, readMoment? true,
  readZonedMoment?, readBinary64?]

/-- Reads a field; one without characters is missing. -/
def readField? (reader : List Char → Option Cell) (field : List Char) : Option Cell :=
  if field.isEmpty then some .missing else reader field

/-- A field as a text. -/
def readText? (field : List Char) : Option Cell := some (.text (String.ofList field))

/-- The cells of the fields of a column. -/
def columnCells (fields : List (List Char)) : List Cell :=
  ((readers ++ [readText?]).findSome? fun reader => fields.mapM (readField? reader)).getD []

end TableFlow.Delimited
