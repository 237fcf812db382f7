import TableFlow.Binary64.Text
import TableFlow.Calendar.Clock
import TableFlow.Cell.Basic
import TableFlow.Text.Quoted
import TableFlow.Text.Split

/-!
# Cells as literals

The literal of a cell shows what kind of value it is: texts are quoted, numbers with a fraction
keep their point, dates and times name their parts, and lists and records are shown with their
elements.
-/

namespace TableFlow

open Calendar (Date DateTime TimeOfDay Clock Offset microsecondsPerSecond)

/-- Numbers are positional from `0.0001` to below `10^16`, keep their point, and have exponents of
at least two digits. -/
def literalLayout : Decimal.Layout :=
  { leastPositional := -4, greatestPositional := 15, keepsPoint := true, exponentWidth := 2 }

/-- The numeral of a whole number of at most `Decimal.digitLimit` digits. -/
def intNumeral (n : Int) : Except Fault String :=
  let ds := Decimal.digits n.natAbs
  if ds.length ≤ Decimal.digitLimit then .ok (String.ofList (Decimal.signedNumeral n))
  else .error .numeralTooLong

/-- Texts with a comma and a space between them. -/
def commaSeparated (parts : List String) : String := ", ".intercalate parts

/-- The literal of a list of texts. -/
def textsLiteral (texts : List String) : String :=
  "[" ++ commaSeparated (texts.map Text.quote) ++ "]"

namespace Cell

/-- A call of a constructor of the calendar. -/
def calendarCall (name : String) (arguments : List String) : String :=
  "datetime." ++ name ++ "(" ++ commaSeparated arguments ++ ")"

/-- A length of time as days, seconds and microseconds, of which only the days may be negative; the
parts that are zero are left out. -/
def durationLiteral (microseconds : Int) : String :=
  let days := microseconds.fdiv (86400 * microsecondsPerSecond)
  let rest := microseconds.fmod (86400 * microsecondsPerSecond)
  let seconds := rest / microsecondsPerSecond
  let fraction := rest % microsecondsPerSecond
  let fields := [("days=", days), ("seconds=", seconds), ("microseconds=", fraction)]
  let parts := fields.filter (·.2 != 0)
  calendarCall "timedelta"
    (if parts.isEmpty then ["0"]
      else parts.map fun (label, n) => label ++ String.ofList (Decimal.signedNumeral n))

def offsetLiteral (o : Offset) : String :=
  if o.microseconds = 0 then "datetime.timezone.utc"
  else calendarCall "timezone" [durationLiteral o.microseconds]

/-- The parts of a time; microseconds that are zero are left out, and then seconds that are. -/
def clockParts (c : Clock) : List Nat :=
  if c.microsecond ≠ 0 then [c.hour, c.minute, c.second, c.microsecond]
  else if c.second ≠ 0 then [c.hour, c.minute, c.second]
  else [c.hour, c.minute]

def offsetPart : Option Offset → List String
  | none => []
  | some o => ["tzinfo=" ++ offsetLiteral o]

def dateParts (d : Date) : List Nat := [d.year, d.month, d.day]

/-- The numeral of a part of a date. -/
def partText (n : Nat) : String := String.ofList (Decimal.numeral n)

def dateLiteral (d : Date) : String := calendarCall "date" ((dateParts d).map partText)

def dateTimeLiteral (t : DateTime) : String :=
  calendarCall "datetime" ((dateParts t.date ++ clockParts t.clock).map partText ++
    offsetPart t.offset)

def timeLiteral (t : TimeOfDay) : String :=
  calendarCall "time" ((clockParts t.clock).map partText ++ offsetPart t.offset)

mutual

/-- The literal of a cell. -/
def literal : Cell → Except Fault String
  | .missing => .ok "None"
  | .bool b => .ok (if b then "True" else "False")
  | .int n => intNumeral n
  | .float x => .ok (x.text literalLayout)
  | .text s => .ok (Text.quote s)
  | .date d => .ok (dateLiteral d)
  | .dateTime t => .ok (dateTimeLiteral t)
  | .time t => .ok (timeLiteral t)
  | .list cells => do
      let parts ← literals cells
      .ok ("[" ++ commaSeparated parts ++ "]")
  | .record fields => do
      let parts ← fieldLiterals fields
      .ok ("\x7b" ++ commaSeparated parts ++ "\x7d")

/-- The literals of the elements of a list. -/
def literals : List Cell → Except Fault (List String)
  | [] => .ok []
  | cell :: cells => do
      let part ← literal cell
      let parts ← literals cells
      .ok (part :: parts)

/-- The literals of the fields of a record with their names. -/
def fieldLiterals : List (String × Cell) → Except Fault (List String)
  | [] => .ok []
  | (name, cell) :: fields => do
      let part ← literal cell
      let parts ← fieldLiterals fields
      .ok ((Text.quote name ++ ": " ++ part) :: parts)

end

/-- The literal of a cell, empty for a number that is too long to be written. -/
def shownLiteral (cell : Cell) : String :=
  match cell.literal with
  | .ok shown => shown
  | .error _ => ""

/-- A cell in a message: a text as it is, any other cell as its literal. -/
def shown : Cell → String
  | .text s => s
  | cell => cell.shownLiteral

end Cell

/-- The literal of a list of cells. -/
def cellsLiteral (cells : List Cell) : String :=
  "[" ++ commaSeparated (cells.map Cell.shownLiteral) ++ "]"

end TableFlow
