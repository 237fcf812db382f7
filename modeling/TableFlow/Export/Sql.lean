import TableFlow.Cell.Coercion
import TableFlow.Row
import TableFlow.Text.CharClass

/-!
# Rows as an SQL script

The script creates a table, all of whose columns hold text, and inserts the rows. Numbers are
written as they are, missing cells as `NULL`, everything else as a quoted text.
-/

namespace TableFlow.Sql

/-- The name of a column: white space is replaced by underscores, one for each run. -/
def columnName : List Char → List Char
  | [] => []
  | c :: rest =>
      if Text.isBlank c then
        if rest.head?.any Text.isBlank then columnName rest else '_' :: columnName rest
      else
        c :: columnName rest

/-- A text between apostrophes; an apostrophe in it is written twice. -/
def quoted (text : String) : String :=
  "'" ++ String.ofList (Text.replaceChar '\'' ['\'', '\''] text.toList) ++ "'"

/-- The literal of a cell. -/
def literal (cell : Cell) : Except Fault String :=
  match cell with
  | .missing => .ok "NULL"
  | cell => do
      let text ← cell.toText
      .ok (if cell.isNumber then text else quoted text)

/-- The values of a row between parentheses. -/
def tuple (columns : List String) (row : Row) : Except Fault String := do
  let literals ← columns.mapM fun column => literal (row.get column)
  .ok ("(" ++ commaSeparated literals ++ ")")

/-- The name of the table unless told otherwise. -/
def defaultTable : String := "transformed_data"

/-- The script; empty if there are no rows. -/
def script (rows : List Row) (columns : List String) (tableName : String := defaultTable) :
    Except Fault String :=
  if rows.isEmpty then
    .ok ""
  else do
    let names := columns.map fun column => String.ofList (columnName column.toList)
    let definitions := ",\n".intercalate (names.map fun name => "  " ++ name ++ " TEXT")
    let tuples ← rows.mapM (tuple columns)
    .ok ("CREATE TABLE " ++ tableName ++ " (\n" ++ definitions ++ "\n);\n\n" ++
      "INSERT INTO " ++ tableName ++ " (" ++ commaSeparated names ++ ") VALUES\n" ++
      ",\n".intercalate tuples ++ ";")

end TableFlow.Sql
