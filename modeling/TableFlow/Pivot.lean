import TableFlow.Grouping

/-!
# Pivoting

A pivot groups the rows by the texts of several columns and replaces each group by one row: the
texts, and for each value column the reduction of its numbers in the group. The texts are joined to
one key by a separator and recovered by splitting the key, so texts that hold the separator can be
shown under the wrong column. The pivot of a configuration may name its columns by any cells.

## Main results

* `PivotConfig.apply_ofPivot`: a configured pivot whose names are texts is a pivot.
-/

namespace TableFlow

/-- The reductions of a pivot. -/
inductive PivotOperation where
  | sum
  | count
  | average
  | least
  | greatest
deriving DecidableEq, Repr

namespace PivotOperation

def name : PivotOperation → String
  | .sum => "sum"
  | .count => "count"
  | .average => "avg"
  | .least => "min"
  | .greatest => "max"

def all : List PivotOperation := [.sum, .count, .average, .least, .greatest]

def ofName? (name : String) : Option PivotOperation :=
  all.find? fun operation => operation.name == name

theorem ofName?_name (operation : PivotOperation) : ofName? operation.name = some operation := by
  cases operation <;> decide

def reduction : PivotOperation → Reduction
  | .sum => .sum
  | .count => .count
  | .average => .mean
  | .least => .least
  | .greatest => .greatest

end PivotOperation

/-- The columns to group by, the columns to reduce, and how. The `columns` are kept with the
configuration and have no effect. -/
structure Pivot where
  rows : List String := []
  columns : List String := []
  values : List String := []
  aggregation : PivotOperation := .sum
deriving DecidableEq, Repr

namespace Pivot

/-- A pivot does something only if it has both columns to group by and columns to reduce. -/
def isActive (pivot : Pivot) : Bool := !pivot.rows.isEmpty && !pivot.values.isEmpty

/-- The text between the texts of a key. -/
def separator : List Char := [':', ':']

/-- The texts of a row in the columns to group by. -/
def labels (pivot : Pivot) (row : Row) : Except Fault (List String) :=
  pivot.rows.mapM fun column => (row.get column).toText

/-- The key of a list of texts. -/
def keyOfLabels (labels : List String) : String :=
  String.ofList (Text.join separator (labels.map String.toList))

/-- The texts that a key is split into. -/
def labelsOfKey (key : String) : List String :=
  (Text.splitOn separator key.toList).map String.ofList

/-- The key of a row. -/
def key (pivot : Pivot) (row : Row) : Except Fault String := do
  let labels ← pivot.labels row
  .ok (keyOfLabels labels)

/-- The name of the column that holds the reduction of a value column. -/
def valueName (pivot : Pivot) (column : String) : String :=
  column ++ "_" ++ pivot.aggregation.name

/-- The columns to group by with the texts of a key; a column without a text is missing. -/
def labelEntries (pivot : Pivot) (key : String) : List (String × Cell) :=
  let labels := labelsOfKey key
  pivot.rows.zipIdx.map fun (column, i) =>
    (column, match labels[i]? with
      | some label => .text label
      | none => .missing)

/-- The value columns with their reductions over a group. -/
def valueEntries (pivot : Pivot) (group : List Row) : Except Fault (List (String × Cell)) :=
  pivot.values.mapM fun column => do
    let xs ← columnNumbers group column
    .ok (pivot.valueName column, pivot.aggregation.reduction.reduce xs)

/-- The row of a group. -/
def summary (pivot : Pivot) (key : String) (group : List Row) : Except Fault Row := do
  let values ← pivot.valueEntries group
  .ok (Row.ofEntries (pivot.labelEntries key ++ values))

/-- Replaces each group by its row; a pivot that is not active leaves the rows as they are. -/
def apply (pivot : Pivot) (rows : List Row) : Except Fault (List Row) :=
  if pivot.isActive then do
    let groups ← groupRows pivot.key rows
    groups.mapM fun (key, group) => pivot.summary key group
  else
    .ok rows

end Pivot

/-- A pivot of a configuration. -/
structure PivotConfig where
  rows : List Cell := []
  columns : List Cell := []
  values : List Cell := []
  aggregation : PivotOperation := .sum

namespace PivotConfig

/-- A pivot whose names are texts. -/
def ofPivot (pivot : Pivot) : PivotConfig :=
  { rows := pivot.rows.map .text, columns := pivot.columns.map .text
    values := pivot.values.map .text, aggregation := pivot.aggregation }

/-- The pivot, if the names of the columns to group by and of those to reduce are texts. -/
def toPivot? (config : PivotConfig) : Option Pivot := do
  let rows ← config.rows.mapM Cell.text?
  let values ← config.values.mapM Cell.text?
  some { rows, columns := config.columns.filterMap Cell.text?, values
         aggregation := config.aggregation }

/-- A pivot does something only if it has both columns to group by and columns to reduce. -/
def isActive (config : PivotConfig) : Bool := !config.rows.isEmpty && !config.values.isEmpty

/-- Replaces each group by its row; a pivot that is not active leaves the rows as they are. -/
def apply (config : PivotConfig) (rows : List Row) : Except Fault (List Row) :=
  if config.isActive then
    match config.toPivot? with
    | some pivot => pivot.apply rows
    | none => Row.unnamed (config.rows ++ config.values) rows
  else
    .ok rows

theorem mapM_text?_texts (names : List String) :
    (names.map Cell.text).mapM Cell.text? = some names := by
  induction names with
  | nil => rfl
  | cons name names ih => rw [List.map_cons, List.mapM_cons, ih]; rfl

theorem filterMap_text?_texts (names : List String) :
    (names.map Cell.text).filterMap Cell.text? = names := by
  rw [List.filterMap_map]
  exact List.filterMap_some

theorem toPivot?_ofPivot (pivot : Pivot) : (ofPivot pivot).toPivot? = some pivot := by
  simp only [toPivot?, ofPivot, mapM_text?_texts, filterMap_text?_texts]
  rfl

theorem isActive_ofPivot (pivot : Pivot) : (ofPivot pivot).isActive = pivot.isActive := by
  simp only [isActive, ofPivot, List.isEmpty_map, Pivot.isActive]

theorem apply_ofPivot (pivot : Pivot) : (ofPivot pivot).apply = pivot.apply := by
  funext rows
  rw [apply, toPivot?_ofPivot, isActive_ofPivot]
  cases hActive : pivot.isActive with
  | true => rfl
  | false => simp [Pivot.apply, hActive]

/-- Cells between parentheses, with a comma after a single one. -/
def namesLiteral : List Cell → String
  | [name] => "(" ++ name.shownLiteral ++ ",)"
  | names => "(" ++ commaSeparated (names.map Cell.shownLiteral) ++ ")"

/-- A pivot as it is shown: its fields with their literals. -/
def literal (config : PivotConfig) : String :=
  "PivotConfig(rows=" ++ namesLiteral config.rows ++
    ", columns=" ++ namesLiteral config.columns ++
    ", values=" ++ namesLiteral config.values ++
    ", aggregation=" ++ Text.quote config.aggregation.name ++ ")"

/-- A pivot in a summary. -/
def summary (config : PivotConfig) : String :=
  "rows=" ++ cellsLiteral config.rows ++ ", columns=" ++ cellsLiteral config.columns ++
    ", values=" ++ cellsLiteral config.values ++ ", aggregation=" ++ config.aggregation.name

end PivotConfig

end TableFlow
