import TableFlow.Delimited.Writer
import TableFlow.Export.Script
import TableFlow.Export.Sql
import TableFlow.Pipeline
import TableFlow.Sheet.Table
import TableFlow.Source

/-!
# Writing the rows of a pipeline

The extension of a file name decides how the rows are written.
-/

namespace TableFlow

/-- The formats in which rows are written. -/
inductive OutputFormat where
  | delimited
  | columnar
  | sql
  | workbook
  | script
deriving DecidableEq, Repr

/-- The format of a file name. -/
def OutputFormat.ofName? (name : String) : Option OutputFormat :=
  match extension name with
  | "csv" => some .delimited
  | "parquet" => some .columnar
  | "sql" => some .sql
  | "xlsx" => some .workbook
  | "py" => some .script
  | _ => none

/-- Why rows are not written. -/
inductive OutputError where
  | unsupported (name : String)
  /-- A column of nested cells has no place in delimited text. -/
  | nested (type : String)
  | store (e : Sheet.StoreError)
  | fault (cause : Fault)

/-- The type of the first column that delimited text has no place for. -/
def nestedType (table : Columnar.Table) : String :=
  match table.columns.find? fun column => !Delimited.Writer.isWritable column.type with
  | some column => column.type.name
  | none => ""

/-- The error of an operation on cells as an error of writing. -/
def orFault {α : Type} : Except Fault α → Except OutputError α := Except.mapError .fault

/-- Rows as delimited text. -/
def delimitedText (rows : List Row) (columns : List String) : Except OutputError String := do
  let table ← orFault (Columnar.Table.ofRows rows columns)
  match Delimited.Writer.write? table with
  | some text => .ok text
  | none => .error (.nested (nestedType table))

/-- A text as the content of a file, which it is encoded for. -/
def encodedText (text : Except Fault String) : Except Fault FileContent := do
  let text ← text
  checkEncodable text
  .ok (.text text)

/-- The content of a file that rows are written to. -/
def OutputFormat.write (format : OutputFormat) (config : Configuration) (rows : List Row)
    (columns : List String) : Except OutputError FileContent :=
  match format with
  | .delimited => (delimitedText rows columns).map .text
  | .columnar => (orFault (Columnar.Table.ofRows rows columns)).map .columnar
  | .sql => orFault (encodedText (Sql.script rows columns))
  | .workbook =>
      match Sheet.write rows columns Sheet.defaultTitle with
      | .ok grid => .ok (.workbook [grid])
      | .error e => .error (.store e)
  | .script => orFault (encodedText (Script.script rows config columns))

namespace Pipeline

/-- The content of a file that the rows of a pipeline are written to. -/
def write (p : Pipeline) (name : String) : Except OutputError FileContent :=
  match OutputFormat.ofName? name with
  | some format => format.write p.config p.transformed p.columns
  | none => .error (.unsupported name)

/-- The notice about rows that were written. -/
def writtenNotice (p : Pipeline) (name : String) : Notice :=
  ⟨.info, Columnar.noticeOrigin,
    "Written " ++ String.ofList (Decimal.numeral p.transformed.length) ++ " rows to " ++ name⟩

/-- The notices of writing the rows of a pipeline, up to a failure. -/
def writeNotices (p : Pipeline) (name : String) : List Notice :=
  let mixed := Columnar.mixedNotices p.transformed (firstOccurrences p.columns)
  let written := match p.write name with
    | .ok _ => [p.writtenNotice name]
    | .error _ => []
  match OutputFormat.ofName? name with
  | some .delimited | some .columnar => mixed ++ written
  | some .workbook => written
  | _ => []

end Pipeline

end TableFlow
