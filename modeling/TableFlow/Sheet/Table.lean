import TableFlow.Row
import TableFlow.Sheet.Grid

/-!
# Sheets as tables

The first row of a sheet names the columns, each later row that has a value is a record. Columns
without a name have a placeholder, and a name that is already taken gets the least number that makes
it new. Cells beyond the named columns and cells without a value are in no record.

A table is written with its column names in the first row and the cells of its rows after it. Texts
are stored as texts even if they look like formulas.
-/

namespace TableFlow.Sheet

/-! ## Reading -/

/-- The name of a column that has none. -/
def placeholder : String := "__EMPTY"

/-- A name with a number. -/
def numbered (name : String) (n : Nat) : String :=
  name ++ "_" ++ String.ofList (Decimal.numeral n)

/-- The first of the numbered names from `n` on that is not taken, tried at most `fuel` times. -/
def firstFree (taken : List String) (name : String) : Nat → Nat → String
  | 0, n => numbered name n
  | fuel + 1, n =>
      if numbered name n ∈ taken then firstFree taken name fuel (n + 1) else numbered name n

/-- The name itself if it is not taken, else the first numbered one that is not. -/
def distinctName (taken : List String) (name : String) : String :=
  if name ∈ taken then firstFree taken name taken.length 1 else name

/-- Gives names that differ from each other and from those before. -/
def distinctNames (taken : List String) : List String → List String
  | [] => taken
  | name :: rest => distinctNames (taken ++ [distinctName taken name]) rest

/-- The name that a header cell gives. -/
def headerName : Cell → Except Fault String
  | .missing => .ok placeholder
  | cell => cell.toText

/-- The names of the columns of a header. -/
def headerNames (cells : List Cell) : Except Fault (List String) := do
  let names ← (dropMissingEnd cells).mapM headerName
  .ok (distinctNames [] names)

/-- The record of a row: its cells that have a value, under their names. -/
def record (header : List String) (cells : List Cell) : Row :=
  Row.ofEntries ((header.zip cells).filter fun (_, cell) => !cell.isMissing)

/-- The column names and the records of a sheet. -/
def read (grid : Grid) : Except Fault (List String × List Row) :=
  match grid.values with
  | [] => .ok ([], [])
  | header :: body => do
      let names ← headerNames header
      .ok (names, (body.map (record names)).filter fun row => !row.entries.isEmpty)

/-- Selects a sheet of a workbook: the one with the title, or the first one. -/
def select? (sheets : List Grid) : Option String → Option Grid
  | none => sheets.head?
  | some title => sheets.find? (·.title == title)

/-! ## Writing -/

/-- The title of a sheet unless told otherwise. -/
def defaultTitle : String := "Data"

/-- A row of cells as it is stored. -/
def storeRow (cells : List Cell) : Except StoreError (List Cell) := cells.mapM store

/-- The sheet of a table. -/
def write (rows : List Row) (columns : List String) (title : String) : Except StoreError Grid := do
  let title ← checkTitle title
  let header ← storeRow (columns.map .text)
  let body ← rows.mapM fun row => storeRow (columns.map row.get)
  .ok ⟨title, header :: body⟩

end TableFlow.Sheet
