import TableFlow.Aggregation
import TableFlow.Filter
import TableFlow.Formula.Column
import TableFlow.Pivot
import TableFlow.Sort

/-!
# Stages

A stage turns rows into new rows. Stages are run one after the other, each on the rows that the one
before it gives; if one fails, the whole run fails. Stages are those of a configuration, which may
name columns by any cells.

## Main results

* `Stage.runAll_append`: running stages in two parts is running them at once.
-/

namespace TableFlow

/-- A step of a transformation. -/
inductive Stage where
  | filter (filters : List FilterConfig)
  | sort (keys : List SortConfig)
  | aggregate (aggregation : AggregationConfig)
  | pivot (pivot : PivotConfig)
  /-- Computes a column by at most `calls` calls one inside another; the declared columns are
  missing in rows that lack them. -/
  | compute (column : FormulaColumn) (declared : List String) (calls : Nat)

namespace Stage

/-- The rows that a stage gives. -/
def apply : Stage → List Row → Except Fault (List Row)
  | .filter filters => FilterConfig.apply filters
  | .sort keys => SortConfig.sort keys
  | .aggregate aggregation => aggregation.apply
  | .pivot layout => layout.apply
  | .compute column declared calls => column.apply declared calls

/-- Runs stages one after the other. -/
def runAll : List Stage → List Row → Except Fault (List Row)
  | [], rows => .ok rows
  | stage :: stages, rows => do
      let rows ← stage.apply rows
      runAll stages rows

theorem runAll_append (front back : List Stage) (rows : List Row) :
    runAll (front ++ back) rows = runAll front rows >>= runAll back := by
  induction front generalizing rows with
  | nil => rfl
  | cons stage front ih =>
    simp only [List.cons_append, runAll]
    cases stage.apply rows with
    | error fault => rfl
    | ok rows => exact ih rows

/-- The rows of a table as they are shown: the columns and the number of rows. -/
def sourceText (columns : List String) (rows : List Row) : String :=
  "RowsDataSource(columns=" ++ textsLiteral columns ++ ", rows=" ++
    String.ofList (Decimal.numeral rows.length) ++ ")"

/-- A stage as it is shown, together with what gives its rows. -/
def text (child : String) : Stage → String
  | .filter filters =>
      "FilterNode(filters=[" ++ commaSeparated (filters.map FilterConfig.literal) ++ "], child=" ++
        child ++ ")"
  | .sort keys => "SortNode(sorting=" ++ SortConfig.literals keys ++ ", " ++ child ++ ")"
  | .aggregate aggregation =>
      "AggregateNode(aggregation=" ++ aggregation.literal ++ ", " ++ child ++ ")"
  | .pivot layout => "PivotNode(pivot=" ++ layout.literal ++ ", " ++ child ++ ")"
  | .compute column _ _ => "FormulaNode(formula=" ++ column.literal ++ ", " ++ child ++ ")"

/-- Stages as they are shown: each one holds the one before it, the first one the source. -/
def textOfAll (source : String) (stages : List Stage) : String :=
  stages.foldl (fun child stage => stage.text child) source

/-- The part of the program that the notices about filters come from. -/
def filterNoticeOrigin : String := "tabshaper.compute.filtering"

/-- The notice about an operator that is not known. -/
def unknownOperatorNotice (f : FilterConfig) : Notice :=
  ⟨.warning, filterNoticeOrigin,
    "Unknown filter operator " ++ f.operator.shownLiteral ++ " on column " ++
      f.column.shownLiteral ++ ", all rows pass"⟩

/-- The notices of filters, up to the first one that fails. -/
def filterNotices : List FilterConfig → List Row → List Notice
  | [], _ => []
  | first :: rest, rows =>
      let own := match first.operator? with
        | some _ => []
        | none => [unknownOperatorNotice first]
      match Filter.select first.keeps rows with
      | .ok rows => own ++ filterNotices rest rows
      | .error _ => own

/-- The notices of a stage. -/
def notices : Stage → List Row → List Notice
  | .filter filters, rows => filterNotices filters rows
  | .compute column declared calls, rows => column.notices declared calls rows
  | _, _ => []

/-- The notices of stages, up to the first one that fails. -/
def noticesOfAll : List Stage → List Row → List Notice
  | [], _ => []
  | stage :: stages, rows =>
      match stage.apply rows with
      | .ok next => stage.notices rows ++ noticesOfAll stages next
      | .error _ => stage.notices rows

end Stage

end TableFlow
