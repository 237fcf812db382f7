import TableFlow.Columnar.Table

/-!
# Tables as comma-separated text

The text is the one that Arrow's writer of delimited text documents. Names and texts always stand
between double quotes, missing cells are empty, and moments have six digits of fraction. A table
without columns has no text, and nested cells have none at all.
-/

namespace TableFlow.Delimited.Writer

open Calendar (Clock DateTime TimeOfDay Offset fractionChars hmsChars)
open Columnar (Table)
open Decimal (paddedNumeral)

/-- Numbers are positional from `0.000001` to below `10^10` and have short exponents. -/
def numberLayout : Decimal.Layout :=
  { leastPositional := -6, greatestPositional := 9, keepsPoint := false, exponentWidth := 1 }

/-- A text between double quotes; a double quote in it is written twice. -/
def quoted (s : String) : List Char :=
  '"' :: (Text.replaceChar '"' ['"', '"'] s.toList ++ ['"'])

/-- A time of day with all its digits. -/
def clockChars (c : Clock) : List Char :=
  hmsChars c.hour c.minute c.second ++ '.' :: paddedNumeral 6 c.microsecond

/-- An offset as hours and minutes. -/
def offsetChars : Option Offset → List Char
  | none => []
  | some o =>
      if o.microseconds = 0 then
        ['Z']
      else
        let minutes := o.microseconds.natAbs / Calendar.microsecondsPerSecond / 60
        (if o.microseconds < 0 then '-' else '+') ::
          (paddedNumeral 2 (minutes / 60) ++ paddedNumeral 2 (minutes % 60))

/-- The text of a cell, none for a nested one. -/
def cellChars? : Cell → Option (List Char)
  | .missing => some []
  | .bool b => some (if b then "true" else "false").toList
  | .int n => some (Decimal.signedNumeral n)
  | .float x => some (x.text numberLayout).toList
  | .text s => some (quoted s)
  | .date d => some d.isoChars
  | .dateTime t => some (t.date.isoChars ++ ' ' :: (clockChars t.clock ++ offsetChars t.offset))
  | .time t => some (clockChars t.clock)
  | .list _ | .record _ => none

/-- Fields with commas between them and a line feed at the end. -/
def record (fields : List (List Char)) : List Char := Text.join [','] fields ++ ['\n']

/-- Tells if the cells of a type have texts. -/
def isWritable : Columnar.ValueType → Bool
  | .list _ | .struct _ => false
  | _ => true

/-- The text of a table, none if it has nested cells. -/
def write? (table : Table) : Option String :=
  if table.columns.isEmpty then
    some ""
  else if table.columns.all fun column => isWritable column.type then do
    let lines ← table.rows.mapM fun row =>
      (table.columnNames.mapM fun name => cellChars? (row.get name)).map record
    some (String.ofList (record (table.columnNames.map quoted) ++ lines.flatten))
  else
    none

end TableFlow.Delimited.Writer
