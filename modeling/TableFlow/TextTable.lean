import TableFlow.Cell.Coercion
import TableFlow.Profile

/-!
# Text tables

A text table has one line for the names of the columns, one line of dashes, and one line for each
row that is shown. All cells of a column have the width of the widest one; spaces at the end of a
line are left out.
-/

namespace TableFlow

namespace TextTable

/-- Texts longer than this are cut. -/
def longestText : Nat := 30

/-- What stands for the part of a text that is cut off. -/
def ellipsis : String := "..."

/-- The text of a cell in a table: binary64 numbers with two decimal places, long texts cut. -/
def cellText (cell : Cell) : Except Fault String :=
  match cell with
  | .float x => .ok (x.fixedText 2)
  | cell => do
      let text ← cell.toText
      .ok (if text.length > longestText then
          String.ofList (text.toList.take (longestText - ellipsis.length)) ++ ellipsis
        else text)

/-- A text with a character repeated after it up to a width. -/
def padded (fill : Char) (width : Nat) (text : String) : List Char :=
  text.toList ++ List.replicate (width - text.length) fill

/-- What stands between two cells of a line. -/
def divider : List Char := [' ', '|', ' ']

/-- A line of a table with cells of the given widths. -/
def line (fill : Char) (widths : List Nat) (cells : List String) : String :=
  let text := Text.join divider (List.zipWith (padded fill) widths cells)
  String.ofList (text.reverse.dropWhile (· == ' ')).reverse

/-- The widths of columns: those of their widest cells, the names among them. -/
def widths (columns : List String) (body : List (List String)) : List Nat :=
  body.foldl (fun ws cells => List.zipWith (fun w (cell : String) => max w cell.length) ws cells)
    (columns.map String.length)

/-- The rows that are shown. A negative bound leaves out that many rows at the end. -/
def shownRows (maxRows : Int) (rows : List Row) : List Row :=
  if 0 ≤ maxRows then rows.take maxRows.toNat else rows.take (rows.length - maxRows.natAbs)

/-- The line about the rows that are not shown. -/
def remainder (maxRows : Int) (rows : List Row) : List String :=
  if maxRows < rows.length then
    ["... and " ++ String.ofList (Decimal.signedNumeral (rows.length - maxRows)) ++ " more rows"]
  else
    []

/-- The lines of a table of rows. -/
def lines (rows : List Row) (columns : List String) (maxRows : Int) :
    Except Fault (List String) := do
  let body ← (shownRows maxRows rows).mapM fun row =>
    columns.mapM fun column => cellText (row.get column)
  let ws := widths columns body
  .ok (line ' ' ws columns :: line '-' ws (columns.map fun _ => "-") ::
    (body.map (line ' ' ws) ++ remainder maxRows rows))

/-- How many rows are shown unless told otherwise. -/
def defaultRows : Int := 20

/-- A table of rows. -/
def table (rows : List Row) (columns : List String) (maxRows : Int := defaultRows) :
    Except Fault String := do
  let ls ← lines rows columns maxRows
  .ok ("\n".intercalate ls)

/-- The columns of a table of profiles. -/
def profileColumns : List String := ["column", "type", "missing", "unique", "min", "max"]

/-- A profile as a row. -/
def profileRow (profile : Profile) : Row :=
  Row.ofEntries [("column", .text profile.name), ("type", .text profile.type.name),
    ("missing", .int profile.missingCount), ("unique", .int profile.uniqueCount),
    ("min", profile.least), ("max", profile.greatest)]

/-- A table of profiles. -/
def profileTable (profiles : List Profile) : Except Fault String :=
  table (profiles.map profileRow) profileColumns profiles.length

end TextTable

end TableFlow
