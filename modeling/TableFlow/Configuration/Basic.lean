import TableFlow.Stage

/-!
# The configuration of a pipeline

A configuration tells which stages a pipeline has. Stages run in a fixed order: filters, sorting,
aggregation, pivoting, computed columns. The columns that formulas may name although a row lacks
them are those of the source, whatever the stages before have done to the rows.

The rows of a stage are asked for by a call inside that of the stage behind it, so the formulas
cannot be more than `callLimit`, and each one is read and evaluated by as many calls as the formulas
behind it have left. There is at most one stage of each other kind, and those are not counted.
-/

namespace TableFlow

/-- Which stages a pipeline has. -/
structure Configuration where
  filters : List FilterConfig := []
  sort : List SortConfig := []
  aggregation : Option AggregationConfig := none
  pivot : Option PivotConfig := none
  formulas : List FormulaColumn := []

namespace Configuration

/-- The configuration without stages. -/
def empty : Configuration := {}

instance : Inhabited Configuration := ⟨empty⟩

/-- A stage for what is configured, none for what is not. -/
def filterStages (config : Configuration) : List Stage :=
  if config.filters.isEmpty then [] else [.filter config.filters]

def sortStages (config : Configuration) : List Stage :=
  if config.sort.isEmpty then [] else [.sort config.sort]

def aggregationStages (config : Configuration) : List Stage :=
  config.aggregation.toList.map .aggregate

def pivotStages (config : Configuration) : List Stage :=
  (config.pivot.toList.filter PivotConfig.isActive).map .pivot

/-- The calls that are left to a formula with so many formulas behind it: its own stage takes one as
well. -/
def callsBefore (later : Nat) : Nat := callLimit - (later + 1)

/-- The stages of formulas, in order. -/
def formulaStages (declared : List String) : List FormulaColumn → List Stage
  | [] => []
  | column :: columns =>
      .compute column declared (callsBefore columns.length) :: formulaStages declared columns

/-- The stages of a configuration in the order in which they run. -/
def stages (config : Configuration) (declared : List String) : List Stage :=
  config.filterStages ++ config.sortStages ++ config.aggregationStages ++ config.pivotStages ++
    formulaStages declared config.formulas

/-- The rows that the configured stages give. -/
def run (config : Configuration) (declared : List String) (rows : List Row) :
    Except Fault (List Row) :=
  if callLimit < config.formulas.length then .error .tooDeep
  else Stage.runAll (config.stages declared) rows

/-- The notices of the configured stages. -/
def notices (config : Configuration) (declared : List String) (rows : List Row) : List Notice :=
  if callLimit < config.formulas.length then []
  else Stage.noticesOfAll (config.stages declared) rows

/-- The configured stages as they are shown, over a source. -/
def planText (config : Configuration) (declared : List String) (rows : List Row) : String :=
  Stage.textOfAll (Stage.sourceText declared rows) (config.stages declared)

/-- A line of a summary: what was applied, or that nothing was. -/
def summaryLine (stage content : String) : String :=
  "Applied " ++ stage ++ ": " ++ (if content.isEmpty then "None" else content)

/-- A summary of the configuration, one text for each kind of stage. -/
def describe (config : Configuration) : List String := [
  summaryLine "filters" (commaSeparated (config.filters.map FilterConfig.summary)),
  summaryLine "sorting" (commaSeparated (config.sort.map SortConfig.summary)),
  summaryLine "aggregation" ((config.aggregation.map AggregationConfig.summary).getD ""),
  summaryLine "pivot" ((config.pivot.map PivotConfig.summary).getD ""),
  summaryLine "formulas" (commaSeparated (config.formulas.map FormulaColumn.summary))]

end Configuration

end TableFlow
