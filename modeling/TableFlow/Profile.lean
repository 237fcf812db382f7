import TableFlow.Cell.Coercion
import TableFlow.Grouping
import TableFlow.Row
import TableFlow.Text.Case
import TableFlow.Text.Order

/-!
# Column profiles

The profile of a column tells which kind of values it holds, how many rows lack a value, how many
different texts occur, and the least and the greatest value. The kind is found from the first
values that are not empty: numbers if all of them are finite numbers, else booleans, else dates,
else texts.
-/

namespace TableFlow

/-- The kinds of columns. -/
inductive ColumnType where
  | number
  | boolean
  | date
  | string
  /-- A column without values. -/
  | empty
deriving DecidableEq, Repr

def ColumnType.name : ColumnType → String
  | .number => "number"
  | .boolean => "boolean"
  | .date => "date"
  | .string => "string"
  | .empty => "empty"

/-- How many values decide about the type of a column. -/
def sampleSize : Nat := 100

/-- The texts that stand for booleans, in lower case. -/
def booleanTexts : List String := ["true", "false", "1", "0", "yes", "no"]

/-- Tells if a cell is a boolean or a text that stands for one. -/
def Cell.givesBoolean : Cell → Except Fault Bool
  | .bool _ => .ok true
  | cell => do
      let text ← cell.toText
      .ok (decide (String.ofList (Text.lower text.toList) ∈ booleanTexts))

/-- The type of a column with the given values, none of which is empty. -/
def inferType (values : List Cell) : Except Fault ColumnType := do
  if values.isEmpty then
    return .empty
  let sample := values.take sampleSize
  if ← sample.allM Cell.givesFiniteNumber then
    return .number
  if ← sample.allM Cell.givesBoolean then
    return .boolean
  return (if sample.all fun cell => cell.toDate?.isSome then .date else .string)

/-- What is known about a column. -/
structure Profile where
  name : String
  type : ColumnType
  missingCount : Nat
  uniqueCount : Nat
  /-- A number in a column of numbers, a text in one of texts or dates, else missing. -/
  least : Cell
  greatest : Cell

namespace Profile

/-- The first text that no other one precedes in the given order. -/
def extremeText? (precedes : String → String → Bool) : List String → Option String
  | [] => none
  | s :: rest => some (rest.foldl (fun best t => if precedes t best then t else best) s)

/-- A text that may be missing, as a cell. -/
def cellOfText? : Option String → Cell
  | some s => .text s
  | none => .missing

/-- The least and the greatest value of a column of a type. -/
def extremes (type : ColumnType) (values : List Cell) (texts : List String) :
    Except Fault (Cell × Cell) :=
  match type with
  | .number => do
      let xs ← values.mapM Cell.toNumber
      let finite := xs.filter Binary64.isFinite
      .ok (Reduction.cellOfNumber? (Reduction.least? finite),
        Reduction.cellOfNumber? (Reduction.greatest? finite))
  | .string | .date =>
      .ok (cellOfText? (extremeText? Text.precedes texts),
        cellOfText? (extremeText? (fun s t => Text.precedes t s) texts))
  | .boolean | .empty => .ok (.missing, .missing)

/-- The profile of a column whose texts can be encoded. -/
def ofColumn (rows : List Row) (column : String) : Except Fault Profile := do
  let cells := rows.map (·.get column)
  let values := cells.filter (!·.isEmpty)
  let texts ← values.mapM Cell.toText
  let type ← inferType values
  let (least, greatest) ← extremes type values texts
  .ok
    { name := column, type, least, greatest
      missingCount := cells.length - values.length
      uniqueCount := (firstOccurrences texts).length }

/-- Encodes the texts of the values of a column. -/
def encodeTexts (rows : List Row) (column : String) : Except Fault Unit := do
  let texts ← ((rows.map (·.get column)).filter (!·.isEmpty)).mapM Cell.toText
  texts.forM checkEncodable

/-- The profile of a column whose texts are encoded to be counted and compared. -/
def ofEncoded (rows : List Row) (column : String) : Except Fault Profile := do
  encodeTexts rows column
  ofColumn rows column

/-- The profiles of columns, in order. -/
def ofColumns (rows : List Row) (columns : List String) : Except Fault (List Profile) :=
  columns.mapM (ofEncoded rows)

end Profile

end TableFlow
