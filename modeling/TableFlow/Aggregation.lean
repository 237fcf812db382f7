import TableFlow.Grouping

/-!
# Aggregation

An aggregation groups the rows by the text of a column and replaces each group by one summary row:
the text, the number of rows of the group, and the reduction of the numbers of that column in it.
The aggregation of a configuration may name its column by any cell.

## Main results

* `AggregationConfig.apply_ofAggregation`: a configured aggregation whose name is a text is an
  aggregation.
-/

namespace TableFlow

/-- A column to group by and the reduction of its numbers. -/
structure Aggregation where
  column : String
  operation : Reduction
deriving DecidableEq, Repr

namespace Aggregation

/-- The name of an operation in an aggregation. -/
def operationName : Reduction → String
  | .sum => "sum"
  | .mean => "mean"
  | .median => "median"
  | .count => "count"
  | .least => "min"
  | .greatest => "max"

def operations : List Reduction := [.sum, .mean, .median, .count, .least, .greatest]

def operationOfName? (name : String) : Option Reduction :=
  operations.find? fun operation => operationName operation == name

theorem operationOfName?_operationName (operation : Reduction) :
    operationOfName? (operationName operation) = some operation := by
  cases operation <;> decide

/-- The column that counts the rows of a group. -/
def countColumn : String := "_count"

/-- The column that holds the reduction. -/
def valueColumn : String := "_value"

/-- The reduction of a group. Counting counts rows, and the mean of no numbers is zero. -/
def value (aggregation : Aggregation) (group : List Row) : Except Fault Cell :=
  match aggregation.operation with
  | .count => .ok (.int group.length)
  | operation => do
      let xs ← columnNumbers group aggregation.column
      .ok (match operation, xs with
        | .mean, [] => .int 0
        | _, _ => operation.reduce xs)

/-- The summary row of a group. -/
def summary (aggregation : Aggregation) (key : String) (group : List Row) : Except Fault Row := do
  let value ← aggregation.value group
  .ok (Row.ofEntries
    [(aggregation.column, .text key), (countColumn, .int group.length), (valueColumn, value)])

/-- The key of a row: the text of its cell in the column. -/
def key (aggregation : Aggregation) (row : Row) : Except Fault String :=
  (row.get aggregation.column).toText

/-- The summary rows of a list of rows. -/
def apply (aggregation : Aggregation) (rows : List Row) : Except Fault (List Row) := do
  let groups ← groupRows aggregation.key rows
  groups.mapM fun (key, group) => aggregation.summary key group

end Aggregation

/-- An aggregation of a configuration. -/
structure AggregationConfig where
  column : Cell
  operation : Reduction

namespace AggregationConfig

/-- An aggregation whose name is a text. -/
def ofAggregation (aggregation : Aggregation) : AggregationConfig :=
  ⟨.text aggregation.column, aggregation.operation⟩

/-- The aggregation, if its name is a text. -/
def toAggregation? (config : AggregationConfig) : Option Aggregation :=
  config.column.text?.map fun column => ⟨column, config.operation⟩

/-- The summary rows of a list of rows. -/
def apply (config : AggregationConfig) (rows : List Row) : Except Fault (List Row) :=
  match config.toAggregation? with
  | some aggregation => aggregation.apply rows
  | none => Row.unnamed [config.column] rows

theorem apply_ofAggregation (aggregation : Aggregation) :
    (ofAggregation aggregation).apply = aggregation.apply := rfl

/-- An aggregation as it is shown: its fields with their literals. -/
def literal (config : AggregationConfig) : String :=
  "AggregationConfig(column=" ++ config.column.shownLiteral ++
    ", operation=" ++ Text.quote (Aggregation.operationName config.operation) ++ ")"

/-- An aggregation in a summary. -/
def summary (config : AggregationConfig) : String :=
  Aggregation.operationName config.operation ++ "(" ++ config.column.shown ++ ")"

end AggregationConfig

end TableFlow
