import TableFlow.Proofs.Row.Columns
import TableFlow.Stage

/-!
# What stages do to rows and columns

Whenever a stage before the formulas gives rows, it does one of two things. Filtering and sorting
leave out rows or put them in another order. Aggregating and pivoting make new rows, whose columns
are told by the configuration alone.

## Main results

* `FilterConfig.sublist_of_apply` and `SortConfig.perm_of_sort`: the rows that are left are of the
  table.
* `AggregationConfig.columns_of_apply` and `PivotConfig.columns_of_apply`: the columns of summary
  rows.
-/

namespace TableFlow

/-! ## Stages that keep rows -/

theorem Filter.sublist_of_select {predicate : Row → Except Fault Bool} {rows kept : List Row}
    (h : select predicate rows = .ok kept) : kept.Sublist rows := by
  induction rows generalizing kept with
  | nil =>
      cases h
      exact .refl []
  | cons row rows ih =>
      obtain ⟨isKept, -, h⟩ := bind_eq_ok_iff.1 h
      obtain ⟨rest, hRest, h⟩ := bind_eq_ok_iff.1 h
      cases h
      cases isKept with
      | true => exact (ih hRest).cons_cons row
      | false => exact (ih hRest).cons row

theorem FilterConfig.sublist_of_apply {filters : List FilterConfig} {rows kept : List Row}
    (h : apply filters rows = .ok kept) : kept.Sublist rows := by
  induction filters generalizing rows with
  | nil =>
      cases h
      exact .refl _
  | cons filter filters ih =>
      obtain ⟨first, hFirst, hRest⟩ := bind_eq_ok_iff.1 h
      exact (ih hRest).trans (Filter.sublist_of_select hFirst)

theorem SortConfig.perm_of_sort {keys : List SortConfig} {rows sorted : List Row}
    (h : sort keys rows = .ok sorted) : sorted.Perm rows := by
  unfold sort at h
  split at h
  · cases h
    exact .refl rows
  · exact perm_of_mergeSortM sorted h

/-! ## Stages that make rows -/

/-- Under names that are no texts, only a table without rows has rows, and these are none. -/
theorem Row.eq_nil_of_unnamed {names : List Cell} {rows after : List Row}
    (h : Row.unnamed names rows = .ok after) : rows = [] ∧ after = [] := by
  unfold unnamed at h
  split at h
  · next hEmpty => exact ⟨List.isEmpty_iff.1 hEmpty, (Except.ok.inj h).symm⟩
  · cases h

namespace Aggregation

/-- The columns of summary rows, as far as they differ. -/
def summaryColumns (aggregation : Aggregation) : List String :=
  [aggregation.column, countColumn, valueColumn]

theorem columns_of_summary {aggregation : Aggregation} {key : String} {group : List Row} {row : Row}
    (h : aggregation.summary key group = .ok row) :
    row.columns = firstOccurrences aggregation.summaryColumns := by
  obtain ⟨value, -, h⟩ := bind_eq_ok_iff.1 h
  cases h
  exact Row.columns_ofEntries _

theorem columns_of_apply {aggregation : Aggregation} {rows summaries : List Row}
    (h : aggregation.apply rows = .ok summaries) :
    ∀ row ∈ summaries, row.columns = firstOccurrences aggregation.summaryColumns := by
  intro row hRow
  obtain ⟨key, group, hSummary⟩ := exists_of_mem_summarizeBy h row hRow
  exact columns_of_summary hSummary

end Aggregation

namespace AggregationConfig

/-- The columns of summary rows, as far as they differ. -/
def summaryColumns (aggregation : AggregationConfig) : List String :=
  (aggregation.toAggregation?.map Aggregation.summaryColumns).getD []

theorem columns_of_apply {aggregation : AggregationConfig} {rows summaries : List Row}
    (h : aggregation.apply rows = .ok summaries) :
    ∀ row ∈ summaries, row.columns = firstOccurrences aggregation.summaryColumns := by
  unfold apply at h
  split at h
  · next found hFound =>
    rw [summaryColumns, hFound]
    exact Aggregation.columns_of_apply h
  · rw [(Row.eq_nil_of_unnamed h).2]
    exact fun _ hRow => absurd hRow List.not_mem_nil

end AggregationConfig

namespace Pivot

variable {pivot : Pivot}

/-- The columns of the rows of groups, as far as they differ. -/
def summaryColumns (pivot : Pivot) : List String := pivot.rows ++ pivot.values.map pivot.valueName

theorem map_fst_labelEntries (pivot : Pivot) (key : String) :
    (pivot.labelEntries key).map Prod.fst = pivot.rows := by
  simp only [labelEntries, List.map_map, Function.comp_def]
  exact List.zipIdx_map_fst 0 pivot.rows

theorem map_fst_of_valueEntries {group : List Row} {entries : List (String × Cell)}
    (h : pivot.valueEntries group = .ok entries) :
    entries.map Prod.fst = pivot.values.map pivot.valueName := by
  refine map_of_mapM (fun column entry hEntry => ?_) h
  obtain ⟨xs, -, hEntry⟩ := bind_eq_ok_iff.1 hEntry
  cases hEntry
  rfl

theorem columns_of_summary {key : String} {group : List Row} {row : Row}
    (h : pivot.summary key group = .ok row) :
    row.columns = firstOccurrences pivot.summaryColumns := by
  obtain ⟨values, hValues, h⟩ := bind_eq_ok_iff.1 h
  cases h
  rw [Row.columns_ofEntries, List.map_append, map_fst_labelEntries, map_fst_of_valueEntries hValues]
  rfl

theorem apply_of_isActive {rows : List Row} (hActive : pivot.isActive) :
    pivot.apply rows = summarizeBy pivot.key pivot.summary rows := by
  rw [apply, if_pos hActive]
  rfl

theorem columns_of_apply {rows summaries : List Row} (hActive : pivot.isActive)
    (h : pivot.apply rows = .ok summaries) :
    ∀ row ∈ summaries, row.columns = firstOccurrences pivot.summaryColumns := by
  rw [apply_of_isActive hActive] at h
  intro row hRow
  obtain ⟨key, group, hSummary⟩ := exists_of_mem_summarizeBy h row hRow
  exact columns_of_summary hSummary

end Pivot

namespace PivotConfig

/-- The columns of the rows of groups, as far as they differ. -/
def summaryColumns (pivot : PivotConfig) : List String :=
  (pivot.toPivot?.map Pivot.summaryColumns).getD []

/-- The names of an active pivot are those of an active one. -/
theorem isActive_of_toPivot? {pivot : PivotConfig} {found : Pivot}
    (h : pivot.toPivot? = some found) : found.isActive = pivot.isActive := by
  obtain ⟨rows, hRows, h⟩ := Option.bind_eq_some_iff.1 h
  obtain ⟨values, hValues, h⟩ := Option.bind_eq_some_iff.1 h
  cases h
  have hEmpty : ∀ {names : List Cell} {texts : List String}, names.mapM Cell.text? = some texts →
      texts.isEmpty = names.isEmpty := by
    intro names texts hTexts
    cases names with
    | nil =>
        cases hTexts
        rfl
    | cons name names =>
        rw [List.mapM_cons] at hTexts
        obtain ⟨text, -, hTexts⟩ := Option.bind_eq_some_iff.1 hTexts
        obtain ⟨rest, -, hTexts⟩ := Option.bind_eq_some_iff.1 hTexts
        cases hTexts
        rfl
  simp only [Pivot.isActive, isActive, hEmpty hRows, hEmpty hValues]

theorem columns_of_apply {pivot : PivotConfig} {rows summaries : List Row}
    (hActive : pivot.isActive) (h : pivot.apply rows = .ok summaries) :
    ∀ row ∈ summaries, row.columns = firstOccurrences pivot.summaryColumns := by
  rw [apply, if_pos hActive] at h
  split at h
  · next found hFound =>
    rw [summaryColumns, hFound]
    exact Pivot.columns_of_apply ((isActive_of_toPivot? hFound).trans hActive) h
  · rw [(Row.eq_nil_of_unnamed h).2]
    exact fun _ hRow => absurd hRow List.not_mem_nil

end PivotConfig

end TableFlow
