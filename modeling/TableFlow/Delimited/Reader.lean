import TableFlow.Delimited.Records
import TableFlow.Delimited.Values
import TableFlow.Row

/-!
# Delimited text as a table

The first record of a text names the columns, the others are the rows. All records have as many
fields as there are columns. If a name is given to several columns, the last one counts.
-/

namespace TableFlow.Delimited

/-- The names of columns and the rows of a text. -/
structure Content where
  columns : List String
  rows : List Row

/-- Why a text is not a table. -/
inductive ReadError where
  | empty
  /-- There is no record that names the columns. -/
  | noNames
  /-- A record has another number of fields than there are columns. -/
  | width (expected actual : Nat) (line : List Char)
deriving DecidableEq, Repr

/-- The part of a long line that a message shows. -/
def shownLine (line : List Char) : String :=
  if line.length > 96 then String.ofList (line.take 96) ++ " ..." else String.ofList line

def ReadError.message : ReadError → String
  | .empty => "Empty CSV file"
  | .noNames =>
      "Could not read first row from CSV file, either file is too short or header is larger " ++
        "than block size"
  | .width expected actual line =>
      "CSV parse error: Expected " ++ String.ofList (Decimal.numeral expected) ++
        " columns, got " ++ String.ofList (Decimal.numeral actual) ++ ": " ++ shownLine line

/-- The first record that does not have the expected number of fields. -/
def checkWidth (expected : Nat) (body : List Record) : Except ReadError Unit :=
  match body.find? fun record => record.fields.length != expected with
  | none => .ok ()
  | some record => .error (.width expected record.fields.length record.line)

/-- The fields of a column. -/
def column (body : List Record) (index : Nat) : List (List Char) :=
  body.map fun record => (record.fields[index]?).getD []

/-- The rows of columns of as many cells. -/
def rowsOf (names : List String) (columns : List (List Cell)) (count : Nat) : List Row :=
  (List.range count).map fun index =>
    Row.ofEntries (List.zipWith (fun name cells => (name, (cells[index]?).getD .missing)) names
      columns)

/-- The content of a text. -/
def read (delimiter : Char) (text : String) : Except ReadError Content :=
  match records delimiter text with
  | [] => .error (if text.isEmpty then .empty else .noNames)
  | header :: body => do
      checkWidth header.fields.length body
      let names := header.fields.map String.ofList
      let columns := (List.range header.fields.length).map fun index =>
        columnCells (column body index)
      .ok ⟨names, rowsOf names columns body.length⟩

end TableFlow.Delimited
