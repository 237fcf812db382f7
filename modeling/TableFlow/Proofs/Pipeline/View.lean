import TableFlow.Pipeline

/-!
# The view of a source under a configuration

A configuration takes the rows of a source through five steps, always in the same order: filters,
sorting, aggregation, pivoting, and the computed columns in the order in which they are declared.
`Configuration.view` says this directly, as a composition of the five steps; a step that is not
configured leaves the rows as they are, and so does a pivot that is not active. A configuration with
more formulas than calls may be nested has no view.

The pipeline itself goes another way: it builds a list of stages and runs the list.

## Main results

* `Configuration.run_eq_view`: running the configured stages gives the view.
-/

namespace TableFlow

namespace Configuration

/-- Takes rows through a step that may not be configured. -/
def optionally {α : Type} (step : α → List Row → Except Fault (List Row)) :
    Option α → List Row → Except Fault (List Row)
  | some x, rows => step x rows
  | none, rows => .ok rows

/-- Takes rows through a step for which a list is configured, empty if nothing is. -/
def unlessEmpty {α : Type} (step : List α → List Row → Except Fault (List Row)) :
    List α → List Row → Except Fault (List Row)
  | [], rows => .ok rows
  | x :: xs, rows => step (x :: xs) rows

/-- No filters keep all rows, so they need not be told from filters. -/
theorem unlessEmpty_filter (filters : List FilterConfig) (rows : List Row) :
    unlessEmpty FilterConfig.apply filters rows = FilterConfig.apply filters rows := by
  cases filters <;> rfl

/-- No keys leave rows as they are, so they need not be told from keys. -/
theorem unlessEmpty_sort (keys : List SortConfig) (rows : List Row) :
    unlessEmpty SortConfig.sort keys rows = SortConfig.sort keys rows := by
  cases keys <;> rfl

/-- The pivot that has an effect: it is configured and active. -/
def activePivot? (config : Configuration) : Option PivotConfig :=
  config.pivot.filter PivotConfig.isActive

/-- Computes columns one after the other, each on the rows that hold the earlier ones, and by the
calls that the later ones leave. -/
def compute (declared : List String) : List FormulaColumn → List Row → Except Fault (List Row)
  | [], rows => .ok rows
  | column :: columns, rows => do
      let filled ← column.apply declared (callsBefore columns.length) rows
      compute declared columns filled

/-- The rows before columns are computed. -/
def summarize (config : Configuration) (rows : List Row) : Except Fault (List Row) := do
  let filtered ← unlessEmpty FilterConfig.apply config.filters rows
  let sorted ← unlessEmpty SortConfig.sort config.sort filtered
  let aggregated ← optionally AggregationConfig.apply config.aggregation sorted
  optionally PivotConfig.apply config.activePivot? aggregated

/-- As many calls may be nested as there are formulas. -/
def Fits (config : Configuration) : Prop := config.formulas.length ≤ callLimit

instance : DecidablePred Fits := fun config =>
  inferInstanceAs (Decidable (config.formulas.length ≤ callLimit))

/-- The rows that a configuration shows of a source with the declared columns. -/
def view (config : Configuration) (declared : List String) (rows : List Row) :
    Except Fault (List Row) :=
  if config.Fits then do
    let summarized ← config.summarize rows
    compute declared config.formulas summarized
  else .error .tooDeep

/-- A configuration that has a view fits, and the view is what the steps give. -/
theorem view_eq_ok_iff {config : Configuration} {declared : List String} {rows shown : List Row} :
    config.view declared rows = .ok shown ↔ config.Fits ∧
      (config.summarize rows >>= compute declared config.formulas) = .ok shown := by
  unfold view
  split
  · next hFits => exact (and_iff_right hFits).symm
  · next hFits => exact iff_of_false nofun fun h => hFits h.1

/-! ## The list of stages -/

private theorem runAll_singleton (stage : Stage) (rows : List Row) :
    Stage.runAll [stage] rows = stage.apply rows := by
  simp only [Stage.runAll]
  cases stage.apply rows <;> rfl

private theorem runAll_filterStages (config : Configuration) (rows : List Row) :
    Stage.runAll config.filterStages rows =
      unlessEmpty FilterConfig.apply config.filters rows := by
  unfold filterStages
  cases config.filters with
  | nil => rfl
  | cons first others => exact runAll_singleton (.filter (first :: others)) rows

private theorem runAll_sortStages (config : Configuration) (rows : List Row) :
    Stage.runAll config.sortStages rows = unlessEmpty SortConfig.sort config.sort rows := by
  unfold sortStages
  cases config.sort with
  | nil => rfl
  | cons first others => exact runAll_singleton (.sort (first :: others)) rows

private theorem runAll_aggregationStages (config : Configuration) (rows : List Row) :
    Stage.runAll config.aggregationStages rows =
      optionally AggregationConfig.apply config.aggregation rows := by
  unfold aggregationStages
  cases config.aggregation with
  | none => rfl
  | some aggregation => exact runAll_singleton (.aggregate aggregation) rows

private theorem runAll_pivotStages (config : Configuration) (rows : List Row) :
    Stage.runAll config.pivotStages rows =
      optionally PivotConfig.apply config.activePivot? rows := by
  unfold pivotStages activePivot?
  cases config.pivot with
  | none => rfl
  | some layout =>
      cases h : layout.isActive with
      | false =>
          simp only [Option.toList_some, List.filter_cons, h, Option.filter_some]
          rfl
      | true =>
          simp only [Option.toList_some, List.filter_cons, h, Option.filter_some]
          exact runAll_singleton (.pivot layout) rows

/-- The stages of all formulas compute the columns. -/
theorem runAll_formulaStages (declared : List String) (columns : List FormulaColumn)
    (rows : List Row) :
    Stage.runAll (formulaStages declared columns) rows = compute declared columns rows := by
  induction columns generalizing rows with
  | nil => rfl
  | cons column columns ih =>
      simp only [formulaStages, Stage.runAll, compute, Stage.apply]
      exact bind_congr ih

/-- Running the list of configured stages is the composition of the five steps. -/
theorem run_eq_view (config : Configuration) (declared : List String) (rows : List Row) :
    config.run declared rows = config.view declared rows := by
  have hFormulas : Stage.runAll (formulaStages declared config.formulas) =
      compute declared config.formulas :=
    funext fun rows => runAll_formulaStages declared config.formulas rows
  have hPivot : Stage.runAll config.pivotStages =
      optionally PivotConfig.apply config.activePivot? :=
    funext fun rows => runAll_pivotStages config rows
  have hRun : Stage.runAll (config.stages declared) rows =
      config.summarize rows >>= compute declared config.formulas := by
    simp only [stages, Stage.runAll_append, runAll_filterStages, runAll_sortStages,
      runAll_aggregationStages, hPivot, hFormulas, summarize, bind_assoc]
  rw [run, view, hRun]
  by_cases hFits : config.Fits
  · rw [if_pos hFits, if_neg (Nat.not_lt.2 hFits)]
  · rw [if_neg hFits, if_pos (Nat.lt_of_not_le hFits)]

end Configuration

end TableFlow
