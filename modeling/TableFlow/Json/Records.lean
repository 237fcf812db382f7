import TableFlow.Json.Reader
import TableFlow.Text.Lines

/-!
# JSON documents as tables

A document is a list of records, or one record. Its columns are those of the first record.
-/

namespace TableFlow.Json

/-- Why a text is not a table. -/
inductive TableError where
  | unreadable (e : ReadError)
  /-- A record is expected instead of another kind of value. -/
  | notRecord (kind : String)
deriving DecidableEq, Repr

/-- The message of an error in a text; nesting that is too deep is not reported. -/
def TableError.message? (cs : List Char) : TableError → Option String
  | .unreadable e => e.message? cs
  | .notRecord kind => some ("Expected a JSON object for each record, got " ++ kind)

/-- The row of a record. -/
def rowOfCell : Cell → Except TableError Row
  | .record entries => .ok (Row.ofEntries entries)
  | cell => .error (.notRecord cell.kindName)

/-- The values of a document: the elements of a list, or a single one. -/
def recordsOf : Cell → List Cell
  | .list cells => cells
  | cell => [cell]

/-- The characters of a file. -/
def fileChars (text : String) : List Char := Text.unifyNewlines text.toList

/-- The rows of a document. -/
def rows (text : String) : Except TableError (List Row) :=
  match document (fileChars text) with
  | .error e => .error (.unreadable e)
  | .ok cell => (recordsOf cell).mapM rowOfCell

/-- The columns of the first row. -/
def columnsOfFirst (rows : List Row) : List String :=
  match rows with
  | [] => []
  | row :: _ => row.columns

end TableFlow.Json
