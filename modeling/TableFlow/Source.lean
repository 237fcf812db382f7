import TableFlow.Columnar.Table
import TableFlow.Delimited.Reader
import TableFlow.Json.Records
import TableFlow.Sheet.Table
import TableFlow.Text.Case

/-!
# Sources of tables

A source names a file and tells how it is read, which the extension of the name decides. Files are
given by their contents, so that what is read depends on nothing else.
-/

namespace TableFlow

/-- A file to read a table from. -/
inductive Source where
  | delimited (name : String) (delimiter : Char)
  | json (name : String)
  | columnar (name : String)
  /-- A workbook, read from the sheet with a title or from the first one. -/
  | workbook (name : String) (sheet : Option String)
deriving DecidableEq, Repr

/-- What a file holds. -/
inductive FileContent where
  | text (s : String)
  | columnar (table : Columnar.Table)
  | workbook (sheets : List Sheet.Grid)

/-- Files by name. -/
abbrev Files := List (String × FileContent)

/-- The extension of a file name in lower case, empty if there is none. -/
def extension (name : String) : String :=
  match Text.cutLast? '.' name.toList with
  | some (_, after) => String.ofList (Text.lower after)
  | none => ""

/-- Why no table is read. -/
inductive SourceError where
  | unsupported (name : String)
  | notFound (source : Source) (name : String)
  | delimited (e : Delimited.ReadError)
  /-- The document is no JSON. -/
  | json (message : String)
  /-- The document or the workbook does not hold a table. -/
  | content (message : String)
  /-- The file is no columnar file. -/
  | columnar (message : String)
  | fault (cause : Fault)

namespace Source

/-- The source that reads a file. -/
def ofName? (name : String) : Option Source :=
  match extension name with
  | "csv" => some (.delimited name ',')
  | "tsv" => some (.delimited name '\t')
  | "json" => some (.json name)
  | "parquet" => some (.columnar name)
  | "xlsx" => some (.workbook name none)
  | _ => none

/-- The name of the kind of a source. -/
def kindName : Source → String
  | .delimited .. => "CSVDataSource"
  | .json _ => "JSONDataSource"
  | .columnar _ => "ParquetDataSource"
  | .workbook .. => "ExcelDataSource"

/-- A source as it is shown. -/
def text (source : Source) : String :=
  let fields := match source with
    | .delimited name delimiter => name ++ ", delimiter=" ++ Text.quote delimiter.toString
    | .json name => name
    | .columnar name => name
    | .workbook name sheet => name ++ ", sheet=" ++ ((sheet.map Text.quote).getD "None")
  source.kindName ++ "(" ++ fields ++ ")"

def name : Source → String
  | .delimited name _ | .json name | .columnar name | .workbook name _ => name

/-- The columns and the rows of a table. -/
structure Data where
  columns : List String
  rows : List Row

/-- Reads a document. -/
def readJson (content : String) : Except SourceError Data :=
  match Json.rows content with
  | .ok rows => .ok ⟨Json.columnsOfFirst rows, rows⟩
  | .error e =>
      match e.message? (Json.fileChars content), e with
      | some message, .unreadable (.unexpected ..) => .error (.json message)
      | some message, _ => .error (.content message)
      | none, _ => .error (.fault .tooDeep)

/-- Reads a sheet of a workbook. -/
def readWorkbook (name : String) (sheets : List Sheet.Grid) (title : Option String) :
    Except SourceError Data :=
  match Sheet.select? sheets title with
  | none =>
      .error (.content ("Worksheet " ++ ((title.map Text.quote).getD "None") ++ " not found in " ++
        name))
  | some grid =>
      match Sheet.read grid with
      | .ok (columns, rows) => .ok ⟨columns, rows⟩
      | .error cause => .error (.fault cause)

/-- Reads the content of a file. -/
def readContent (source : Source) (content : FileContent) : Except SourceError Data :=
  match source, content with
  | .delimited _ delimiter, .text s =>
      match Delimited.read delimiter s with
      | .ok c => .ok ⟨c.columns, c.rows⟩
      | .error e => .error (.delimited e)
  | .json _, .text s => readJson s
  | .columnar _, .columnar table => .ok ⟨table.columnNames, table.rows⟩
  | .columnar name, _ =>
      .error (.columnar ("Could not open Parquet input source '" ++ name ++ "': Parquet magic " ++
        "bytes not found in footer. Either the file is corrupted or this is not a parquet file."))
  | .workbook name title, .workbook sheets => readWorkbook name sheets title
  | .workbook name _, _ => .error (.content ("Not a valid Excel workbook: " ++ name))
  | .delimited .., _ => .error (.delimited .noNames)
  | .json _, _ => .error (.json "Expecting value: line 1 column 1 (char 0)")

/-- Reads the table of a source from the files. -/
def read (files : Files) (source : Source) : Except SourceError Data :=
  match files.lookup source.name with
  | none => .error (.notFound source source.name)
  | some content => source.readContent content

end Source

/-- The message for a file whose name has another extension. -/
def Source.unsupportedMessage (name : String) : String := "Unsupported file type: " ++ name

/-- The message for a file that does not exist. -/
def missingFileMessage (name : String) : String :=
  "[Errno 2] No such file or directory: " ++ Text.quote name

/-- The message of an error; some faults have none. -/
def SourceError.message? : SourceError → Option String
  | .unsupported name => some (Source.unsupportedMessage name)
  | .notFound (.delimited ..) name =>
      some ("[Errno 2] Failed to open local file '" ++ name ++
        "'. Detail: [errno 2] No such file or directory")
  | .notFound (.columnar _) name => some name
  | .notFound _ name => some (missingFileMessage name)
  | .delimited e => some e.message
  | .json message | .content message | .columnar message => some message
  | .fault cause => cause.message?

end TableFlow
