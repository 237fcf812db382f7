import TableFlow.Cell.Coercion
import TableFlow.Row
import TableFlow.Text.Order

/-!
# Types of columns

In a columnar table every column has one type. Types and their inference are those that Arrow
documents for an array that is made of untyped values. The type is inferred from the first cells of
the column: cells are looked at up to the first one that is neither missing, a whole number, a list
nor a record. Binary64 numbers win over whole numbers, and whole numbers over everything else. A
column of lists or records holds nothing else, and the types inside are inferred in the same way.
-/

namespace TableFlow.Columnar

open Calendar (Offset)

/-- The type of the cells of a column, or of a part of them. -/
inductive ValueType where
  | null
  | bool
  | int64
  | double
  | string
  | date
  | time
  /-- Moments; the offset is the one they are shown with. -/
  | timestamp (offset : Option Offset)
  | list (item : ValueType)
  | struct (fields : List (String × ValueType))

instance : Inhabited ValueType := ⟨.null⟩

namespace ValueType

/-- The name of an offset as a time zone. -/
def zoneName (o : Offset) : String :=
  if o.microseconds = 0 then "UTC" else String.ofList o.isoChars

mutual

/-- The name of a type. -/
def name : ValueType → String
  | .null => "null"
  | .bool => "bool"
  | .int64 => "int64"
  | .double => "double"
  | .string => "string"
  | .date => "date32[day]"
  | .time => "time64[us]"
  | .timestamp none => "timestamp[us]"
  | .timestamp (some o) => "timestamp[us, tz=" ++ zoneName o ++ "]"
  | .list item => "list<item: " ++ item.name ++ ">"
  | .struct fields => "struct<" ++ commaSeparated (fieldNames fields) ++ ">"

/-- The names of fields with their types. -/
def fieldNames : List (String × ValueType) → List String
  | [] => []
  | (field, type) :: rest => (field ++ ": " ++ type.name) :: fieldNames rest

end

end ValueType

/-- Tells if a cell ends the inference: it tells a type by itself. -/
def decidesType : Cell → Bool
  | .missing | .int _ | .list _ | .record _ => false
  | _ => true

/-- The cells up to the first one that decides. -/
def inspected : List Cell → List Cell
  | [] => []
  | cell :: rest => if decidesType cell then [cell] else cell :: inspected rest

/-- The type of a cell that is neither missing, a list nor a record, with its rank: the lowest rank
wins. -/
def scalarType? : Cell → Option (Nat × ValueType)
  | .float _ => some (0, .double)
  | .int _ => some (1, .int64)
  | .date _ => some (2, .date)
  | .time _ => some (3, .time)
  | .dateTime t => some (4, .timestamp t.offset)
  | .bool _ => some (5, .bool)
  | .text _ => some (6, .string)
  | .missing | .list _ | .record _ => none

/-- The first type of the lowest rank, `null` if there is none. -/
def lowestRank (ranked : List (Nat × ValueType)) : ValueType :=
  match ranked with
  | [] => .null
  | first :: rest => (rest.foldl (fun best r => if r.1 < best.1 then r else best) first).2

/-- The cells of a list, if it is one. -/
def listCells? : Cell → Option (List Cell)
  | .list cells => some cells
  | _ => none

/-- The fields of a record, if it is one. -/
def recordFields? : Cell → Option (List (String × Cell))
  | .record fields => some fields
  | _ => none

/-- The names of the fields of records, in the order of their code points. -/
def fieldNames (records : List (List (String × Cell))) : List String :=
  (firstOccurrences (records.flatMap (·.map Prod.fst))).mergeSort fun s t => !Text.precedes t s

/-- The type that inspected cells have in common, `none` if they have none. The cells are nested at
most `depth` deep. -/
def commonType? (depth : Nat) (cells : List Cell) : Option ValueType :=
  match depth with
  | 0 => none
  | depth + 1 =>
      let present := cells.filter (!·.isMissing)
      let lists := present.filterMap listCells?
      let records := present.filterMap recordFields?
      if !lists.isEmpty then
        if lists.length = present.length then
          (commonType? depth (lists.flatMap inspected)).map .list
        else
          none
      else if !records.isEmpty then
        if records.length = present.length then
          ((fieldNames records).mapM fun field =>
            (commonType? depth (records.filterMap (·.lookup field))).map ((field, ·))).map .struct
        else
          none
      else
        some (lowestRank (present.filterMap scalarType?))

mutual

/-- How deep lists and records are nested in a cell, counting the cell. -/
def depthOf : Cell → Nat
  | .list cells => depthOfCells cells + 1
  | .record fields => depthOfFields fields + 1
  | _ => 1

def depthOfCells : List Cell → Nat
  | [] => 0
  | cell :: rest => max (depthOf cell) (depthOfCells rest)

def depthOfFields : List (String × Cell) → Nat
  | [] => 0
  | (_, cell) :: rest => max (depthOf cell) (depthOfFields rest)

end

/-- The type of a column, `none` if its cells are of different kinds. -/
def inferType? (cells : List Cell) : Option ValueType :=
  commonType? (depthOfCells cells + 1) (inspected cells)

end TableFlow.Columnar
