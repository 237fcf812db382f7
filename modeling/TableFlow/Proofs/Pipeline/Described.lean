import TableFlow.Pipeline
import TableFlow.Proofs.Pipeline.View

/-!
# Pipelines that are described but have no source

A pipeline that is made from a description has no rows yet. On no rows, stages fail for two reasons
only: formulas are too many, or one is no text. So such a pipeline is told by its configuration
alone, and so is what a change of it comes to.

## Main results

* `Configuration.run_nil`: what the stages make of no rows.
* `Pipeline.change_ofConfiguration`: what a change of a pipeline without a source comes to.
* `Pipeline.ofRecord_eq_none_iff`: which records make a pipeline.
-/

namespace TableFlow

/-! ## Stages on no rows -/

theorem FilterConfig.apply_nil (filters : List FilterConfig) : apply filters [] = .ok [] := by
  induction filters with
  | nil => rfl
  | cons filter filters ih => exact ih

theorem SortConfig.sort_nil (keys : List SortConfig) : sort keys [] = .ok [] := by
  unfold sort mergeSortM
  split <;> rfl

theorem AggregationConfig.apply_nil (aggregation : AggregationConfig) :
    aggregation.apply [] = .ok [] := by
  unfold apply
  split <;> rfl

theorem PivotConfig.apply_nil (pivot : PivotConfig) : pivot.apply [] = .ok [] := by
  unfold apply
  split
  · split
    · next layout hLayout =>
      unfold Pivot.apply
      split <;> rfl
    · rfl
  · rfl

namespace Configuration

/-- All formulas are texts. -/
def HasTextFormulas (config : Configuration) : Prop :=
  ∀ column ∈ config.formulas, column.formula.IsText

instance : DecidablePred HasTextFormulas := fun config =>
  inferInstanceAs (Decidable (∀ column ∈ config.formulas, column.formula.IsText))

theorem summarize_nil (config : Configuration) : config.summarize [] = .ok [] := by
  have hStep {α : Type} {step : α → List Row → Except Fault (List Row)}
      (h : ∀ x, step x [] = .ok []) (x? : Option α) : optionally step x? [] = .ok [] := by
    cases x? with
    | none => rfl
    | some x => exact h x
  unfold summarize
  rw [unlessEmpty_filter, FilterConfig.apply_nil]
  show (unlessEmpty SortConfig.sort config.sort [] >>= _) = _
  rw [unlessEmpty_sort, SortConfig.sort_nil]
  show (optionally AggregationConfig.apply config.aggregation [] >>= _) = _
  rw [hStep AggregationConfig.apply_nil]
  exact hStep PivotConfig.apply_nil _

theorem compute_nil (declared : List String) (columns : List FormulaColumn) :
    compute declared columns [] =
      if ∀ column ∈ columns, column.formula.IsText then .ok []
      else .error .formulaNotText := by
  induction columns with
  | nil => rfl
  | cons column columns ih =>
      rw [compute]
      obtain ⟨name, formula⟩ := column
      cases formula with
      | text text =>
          have hTexts : (∀ column ∈ FormulaColumn.mk name (.text text) :: columns,
              column.formula.IsText) ↔ ∀ column ∈ columns, column.formula.IsText := by
            rw [List.forall_mem_cons, and_iff_right ⟨text, rfl⟩]
          have hFirst : (FormulaColumn.mk name (.text text)).apply declared
              (callsBefore columns.length) [] = .ok [] := by
            cases name <;> rfl
          simp only [hTexts, hFirst]
          exact ih
      | _ =>
          rw [if_neg]
          · cases name <;> rfl
          · intro hTexts
            obtain ⟨_, ⟨⟩⟩ := hTexts _ List.mem_cons_self

/-- Why stages fail on no rows, if they do. -/
def fault? (config : Configuration) : Option Fault :=
  if ¬ config.Fits then some .tooDeep
  else if ¬ config.HasTextFormulas then some .formulaNotText
  else none

theorem fault?_eq_none_iff {config : Configuration} :
    config.fault? = none ↔ config.Fits ∧ config.HasTextFormulas := by
  by_cases hFits : config.Fits <;> by_cases hTexts : config.HasTextFormulas <;>
    simp [fault?, hFits, hTexts]

/-- Neither reason has a message. -/
theorem message?_of_fault? {config : Configuration} {cause : Fault}
    (h : config.fault? = some cause) : cause.message? = none := by
  unfold fault? at h
  split at h
  · cases h
    rfl
  · split at h
    · cases h
      rfl
    · cases h

/-- On no rows, the stages fail exactly if formulas are too many or one is no text. -/
theorem run_nil (config : Configuration) (declared : List String) :
    config.run declared [] = config.fault?.elim (.ok []) .error := by
  rw [run_eq_view, view, summarize_nil]
  show (if config.Fits then compute declared config.formulas [] else .error .tooDeep) = _
  rw [compute_nil]
  by_cases hFits : config.Fits
  · by_cases hTexts : config.HasTextFormulas
    · rw [fault?_eq_none_iff.2 ⟨hFits, hTexts⟩, if_pos hFits]
      exact if_pos hTexts
    · have hFault : config.fault? = some .formulaNotText := by
        simp [fault?, hFits, hTexts]
      rw [hFault, if_pos hFits]
      exact if_neg hTexts
  · have hFault : config.fault? = some .tooDeep := by
      simp [fault?, hFits]
    rw [hFault, if_neg hFits]
    rfl

end Configuration

/-! ## Pipelines -/

namespace Pipeline

/-- The pipeline without a source that has a configuration. -/
def ofConfiguration (config : Configuration) : Pipeline := { config }

theorem recompute_ofConfiguration (config : Configuration) :
    (ofConfiguration config).recompute =
      (ofConfiguration config, config.fault?.map .fault) := by
  have hRun : (ofConfiguration config).config.run (ofConfiguration config).sourceColumns
      (ofConfiguration config).rows = _ := config.run_nil []
  unfold recompute
  rw [hRun]
  cases config.fault? <;> rfl

theorem change_ofConfiguration (config : Configuration) (c : Change) :
    (ofConfiguration config).change c =
      match config.change c with
      | .error refusal => (ofConfiguration config, some (.refused refusal))
      | .ok changed => (ofConfiguration changed, changed.fault?.map .fault) := by
  unfold change
  show (match config.change c with
    | .error refusal => (ofConfiguration config, some (PipelineError.refused refusal))
    | .ok changed => (ofConfiguration changed).recompute) = _
  cases config.change c with
  | error refusal => rfl
  | ok changed => exact recompute_ofConfiguration changed

/-- What a record comes to. -/
theorem ofRecord_eq (record : Cell) :
    ofRecord record =
      match Configuration.ofRecord record with
      | .error refusal => (empty, some (.refused refusal))
      | .ok config => (ofConfiguration config, config.fault?.map .fault) :=
  change_ofConfiguration .empty (.replace record)

/-- A record makes a pipeline exactly if it passes the checks and its formulas are texts and not too
many. -/
theorem ofRecord_eq_none_iff {record : Cell} {p : Pipeline} :
    ofRecord record = (p, none) ↔
      ∃ config, Configuration.ofRecord record = .ok config ∧ config.Fits ∧
        config.HasTextFormulas ∧ p = ofConfiguration config := by
  rw [ofRecord_eq]
  cases Configuration.ofRecord record with
  | error refusal => simp
  | ok config =>
      simp only [Prod.mk.injEq, Option.map_eq_none_iff, Configuration.fault?_eq_none_iff,
        Except.ok.injEq, exists_eq_left']
      rw [and_comm, and_assoc, eq_comm]

end Pipeline

end TableFlow
