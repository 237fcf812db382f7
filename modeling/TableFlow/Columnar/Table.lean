import TableFlow.Columnar.Convert
import TableFlow.Notice
import TableFlow.Row

/-!
# Columnar tables

Rows become a table of typed columns, as Arrow holds one in memory and in a file. A column whose
cells have no common type holds their texts, missing cells staying missing; a column without values
holds texts.
-/

namespace TableFlow.Columnar

/-- A column of a table: all its cells are missing or of its type. -/
structure Column where
  name : String
  type : ValueType
  cells : List Cell

/-- A table. All columns have as many cells as the table has rows. -/
structure Table where
  columns : List Column
  rowCount : Nat

/-- The texts of cells, missing ones staying missing. -/
def textCells (cells : List Cell) : Except Fault (List Cell) :=
  cells.mapM fun cell =>
    match cell with
    | .missing => .ok .missing
    | cell => do
        let text ← cell.toText
        checkEncodable text
        .ok (.text text)

/-- The cells in the type they have in common, `none` if they have none. -/
def typedCells? (cells : List Cell) : Except Fault (Option (ValueType × List Cell)) :=
  match inferType? cells with
  | none => .ok none
  | some .null => .ok (some (.string, cells))
  | some type =>
      match convertAll type cells with
      | .ok converted => .ok (some (type, converted))
      | .error .otherKind => .ok none
      | .error (.fault cause) => .error cause

/-- A column of rows. -/
def columnOf (rows : List Row) (name : String) : Except Fault Column := do
  let cells := rows.map (·.get name)
  match ← typedCells? cells with
  | some (type, converted) => .ok ⟨name, type, converted⟩
  | none => do
      let texts ← textCells cells
      .ok ⟨name, .string, texts⟩

/-- The table of the columns of rows. Without columns there are no rows. -/
def Table.ofRows (rows : List Row) (columns : List String) : Except Fault Table := do
  let columns ← (firstOccurrences columns).mapM (columnOf rows)
  columns.forM fun column => checkEncodable column.name
  .ok ⟨columns, if columns.isEmpty then 0 else rows.length⟩

/-- The names of the columns with the names of their types. -/
def Table.schema (table : Table) : List (String × String) :=
  table.columns.map fun column => (column.name, column.type.name)

/-- The cells of a row of a table. -/
def Table.row (table : Table) (index : Nat) : Row :=
  Row.ofEntries (table.columns.map fun column =>
    (column.name, (column.cells[index]?).getD .missing))

/-- The rows of a table. -/
def Table.rows (table : Table) : List Row := (List.range table.rowCount).map table.row

def Table.columnNames (table : Table) : List String := table.columns.map Column.name

/-- A table as it is shown: its columns and its number of rows. -/
def Table.text (table : Table) : String :=
  "PyArrowTableDataSource(columns=" ++ textsLiteral table.columnNames ++ ", rows=" ++
    String.ofList (Decimal.numeral table.rowCount) ++ ")"

/-- The part of the program that the notices about exports come from. -/
def noticeOrigin : String := "tabshaper.export"

/-- The notice about a column whose cells have no common type. -/
def mixedNotice (name : String) : Notice :=
  ⟨.debug, noticeOrigin,
    "Column " ++ Text.quote name ++ " has mixed types, exporting it as strings"⟩

/-- The notices of making a table, up to the first column that fails. -/
def mixedNotices (rows : List Row) : List String → List Notice
  | [] => []
  | name :: rest =>
      match typedCells? (rows.map (·.get name)) with
      | .ok (some _) => mixedNotices rows rest
      | .ok none => mixedNotice name :: mixedNotices rows rest
      | .error _ => []

end TableFlow.Columnar
