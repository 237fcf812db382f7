import TableFlow.Configuration.Basic
import TableFlow.Export.WrappedLiteral

/-!
# Rows as a script

The script holds the rows as a literal, tells in comments which stages were configured, shows a
summary of the data and saves them. Cells that have no literal in the language of the script are
held as texts, and numbers that are not finite as missing.
-/

namespace TableFlow.Script

/-- The cell that the script holds for a cell. -/
def literalCell (cell : Cell) : Except Fault Cell :=
  match cell with
  | .missing | .bool _ | .int _ | .text _ => .ok cell
  | .float x => .ok (if x.isFinite then cell else .missing)
  | cell => do
      let text ← cell.toText
      .ok (.text text)

/-- The record that the script holds for a row. -/
def record (columns : List String) (row : Row) : Except Fault (List (String × Cell)) := do
  let entries ← columns.mapM fun column => do
    let cell ← literalCell (row.get column)
    .ok (column, cell)
  .ok (Row.ofEntries entries).entries

/-- The lines of the script after the description of the stages. -/
def closing : String :=
  "\n\n# Display first few rows\nprint(df.head())\n\n# Basic statistics\n" ++
  "print(\"\\nData types:\")\nprint(df.dtypes)\n\nprint(\"\\nSummary statistics:\")\n" ++
  "print(df.describe())\n\n# Export to CSV\ndf.to_csv('output.csv', index=False)\n" ++
  "print(\"\\nData exported to output.csv\")\n"

/-- The script for rows that a configuration gave. -/
def script (rows : List Row) (config : Configuration) (columns : List String) :
    Except Fault String := do
  let records ← rows.mapM (record columns)
  let data ← WrappedLiteral.records records
  let stages := "\n".intercalate (config.describe.map ("# " ++ ·))
  .ok ("# Python/Pandas script for data transformation\nimport pandas as pd\n\n# Sample data (" ++
    String.ofList (Decimal.numeral rows.length) ++ " rows)\ndata = " ++ data ++
    "\n\ndf = pd.DataFrame(data)\n\n" ++ stages ++ closing)

end TableFlow.Script
