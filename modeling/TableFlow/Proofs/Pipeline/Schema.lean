import Mathlib.Data.List.Perm.Subperm
import TableFlow.Proofs.Pipeline.Containment
import TableFlow.Proofs.Pipeline.Edits
import TableFlow.Proofs.Stage.Columns

/-!
# The columns that a pipeline shows

Which columns a pipeline shows is told by its configuration, whatever the cells are. If rows are
aggregated or pivoted, their columns are those of summary rows; otherwise each row has the columns
of a row of the source. Behind them come the columns that formulas compute, in the order in which
they are declared. A name that occurs again stays where it occurs first.

This holds from one computation of the rows to the next. An edit that is refused comes to no
computation, and neither does a source that is loaded and cannot be profiled, so `lastComputed?`
tells which computation the rows on show are from.

## Main results

* `Configuration.extends_of_compute`: computed columns come behind the others.
* `Configuration.showsColumns_of_view`: the columns of the rows that a view gives.
* `Pipeline.columns_after`: the columns that a pipeline shows after any edits.
-/

namespace TableFlow

/-! ## Computed columns -/

/-- A row comes from another one by computing columns of the given names. -/
structure Row.Extends (names : List String) (before after : Row) : Prop where
  columns : after.columns = firstOccurrences (before.columns ++ names)
  cells : ∀ column, column ∉ names → after.get? column = before.get? column

namespace Row

theorem Extends.refl (row : Row) : row.Extends [] row where
  columns := by rw [List.append_nil, firstOccurrences_eq_self row.nodup_columns]
  cells := fun _ _ => rfl

theorem extends_set (row : Row) (name : String) (cell : Cell) :
    row.Extends [name] (row.set name cell) where
  columns := columns_set_of_eq (firstOccurrences_eq_self row.nodup_columns).symm name cell
  cells := fun _ hOther => get?_set_of_ne row cell (by simpa using hOther)

theorem Extends.trans {names more : List String} {first second third : Row}
    (h : first.Extends names second) (h' : second.Extends more third) :
    first.Extends (names ++ more) third where
  columns := by rw [h'.columns, h.columns, firstOccurrences_append_left, List.append_assoc]
  cells := by
    intro column hOther
    rw [List.mem_append, not_or] at hOther
    rw [h'.cells column hOther.2, h.cells column hOther.1]

end Row

namespace FormulaColumn

/-- A column comes behind the others. Only a text names one; other names are given to no rows. -/
theorem extends_of_apply {column : FormulaColumn} {declared : List String} {calls : Nat}
    {before after : List Row} (h : column.apply declared calls before = .ok after) :
    List.Forall₂ (Row.Extends column.name.text?.toList) before after := by
  unfold apply at h
  split at h
  · next text name hFormula hName =>
    cases h
    have hFills := fills_filled calls text declared before name
    refine List.forall₂_iff_get.2 ⟨hFills.length.symm, fun i hi hi' => ?_⟩
    have hRow := hFills.row i before[i] (List.getElem?_eq_getElem hi)
    rw [List.getElem?_eq_getElem hi', Option.some.injEq] at hRow
    rw [List.get_eq_getElem, List.get_eq_getElem, hRow, hName]
    exact Row.extends_set _ _ _
  · obtain ⟨rfl, rfl⟩ := Row.eq_nil_of_unnamed h
    exact .nil
  · cases h

end FormulaColumn

namespace Configuration

variable {config : Configuration} {declared : List String} {rows after : List Row}

/-- The names of the columns that formulas compute, in the order of the formulas. -/
def computedNames (columns : List FormulaColumn) : List String :=
  columns.filterMap fun column => column.name.text?

theorem computedNames_cons (column : FormulaColumn) (columns : List FormulaColumn) :
    computedNames (column :: columns) = column.name.text?.toList ++ computedNames columns := by
  rw [computedNames, List.filterMap_cons]
  cases column.name.text? <;> rfl

/-- The columns that formulas compute come behind the others, in the order of the formulas. -/
theorem extends_of_compute {columns : List FormulaColumn}
    (h : compute declared columns rows = .ok after) :
    List.Forall₂ (Row.Extends (computedNames columns)) rows after := by
  induction columns generalizing rows with
  | nil =>
      cases h
      exact List.forall₂_same.2 fun row _ => .refl row
  | cons column columns ih =>
      obtain ⟨filled, hFilled, hRest⟩ := bind_eq_ok_iff.1 h
      have hTrans : ∀ x y z, Row.Extends column.name.text?.toList x y →
          Row.Extends (computedNames columns) y z →
          Row.Extends (computedNames (column :: columns)) x z :=
        fun _ _ _ => computedNames_cons column columns ▸ Row.Extends.trans
      exact forall₂_trans hTrans (FormulaColumn.extends_of_apply hFilled) (ih hRest)

/-! ## The view of a source -/

/-- The columns of the rows that take the place of those of the source, as far as they differ. The
last step that makes rows counts, and there may be none. -/
def summaryColumns? (config : Configuration) : Option (List String) :=
  (config.activePivot?.map PivotConfig.summaryColumns).or
    (config.aggregation.map AggregationConfig.summaryColumns)

/-- The names of the columns that the formulas compute. -/
def formulaNames (config : Configuration) : List String := computedNames config.formulas

/-- The rows that are shown for a source have the columns that the configuration tells. -/
structure ShowsColumns (config : Configuration) (source shown : List Row) : Prop where
  summarized : ∀ base, config.summaryColumns? = some base →
    ∀ row ∈ shown, row.columns = firstOccurrences (base ++ config.formulaNames)
  /-- Without summary rows, each row comes from a row of the source. -/
  kept : config.summaryColumns? = none → ∃ origins : List Row, origins.Subperm source ∧
    List.Forall₂ (Row.Extends config.formulaNames) origins shown

theorem isActive_of_activePivot? {pivot : PivotConfig} (h : config.activePivot? = some pivot) :
    pivot.isActive :=
  (Option.filter_eq_some_iff.1 h).2

theorem subperm_of_filter_of_sort {filtered sorted : List Row}
    (hFiltered : unlessEmpty FilterConfig.apply config.filters rows = .ok filtered)
    (hSorted : unlessEmpty SortConfig.sort config.sort filtered = .ok sorted) :
    sorted.Subperm rows := by
  rw [unlessEmpty_filter] at hFiltered
  rw [unlessEmpty_sort] at hSorted
  have hRemaining := (FilterConfig.sublist_of_apply hFiltered).subperm
  exact (SortConfig.perm_of_sort hSorted).subperm.trans hRemaining

/-- The rows before the formulas are summary rows, or rows of the source. -/
theorem columns_of_summarize {summarized : List Row} (h : config.summarize rows = .ok summarized) :
    (∀ base, config.summaryColumns? = some base →
      ∀ row ∈ summarized, row.columns = firstOccurrences base) ∧
    (config.summaryColumns? = none → summarized.Subperm rows) := by
  obtain ⟨filtered, hFiltered, h⟩ := bind_eq_ok_iff.1 h
  obtain ⟨sorted, hSorted, h⟩ := bind_eq_ok_iff.1 h
  obtain ⟨aggregated, hAggregated, hPivoted⟩ := bind_eq_ok_iff.1 h
  have hKept : sorted.Subperm rows := subperm_of_filter_of_sort hFiltered hSorted
  unfold summaryColumns?
  cases hPivot : config.activePivot? with
  | some pivot =>
      rw [hPivot] at hPivoted
      have hColumns := PivotConfig.columns_of_apply (isActive_of_activePivot? hPivot) hPivoted
      refine ⟨?_, by rintro ⟨⟩⟩
      rintro base ⟨⟩
      exact hColumns
  | none =>
      rw [hPivot] at hPivoted
      cases hPivoted
      cases hAggregation : config.aggregation with
      | some aggregation =>
          rw [hAggregation] at hAggregated
          refine ⟨?_, by rintro ⟨⟩⟩
          rintro base ⟨⟩
          exact AggregationConfig.columns_of_apply hAggregated
      | none =>
          rw [hAggregation] at hAggregated
          cases hAggregated
          exact ⟨by rintro base ⟨⟩, fun _ => hKept⟩

/-- The view of a source has the columns that the configuration tells. -/
theorem showsColumns_of_view (h : config.view declared rows = .ok after) :
    config.ShowsColumns rows after := by
  obtain ⟨summarized, hSummarized, hComputed⟩ := bind_eq_ok_iff.1 (view_eq_ok_iff.1 h).2
  obtain ⟨hSummary, hKept⟩ := columns_of_summarize hSummarized
  have hExtends := extends_of_compute hComputed
  refine { summarized := fun base hBase row hRow => ?_, kept := fun hNone => ?_ }
  · obtain ⟨origin, hOrigin, hRow⟩ := exists_of_mem_of_forall₂ hExtends row hRow
    rw [hRow.columns, hSummary base hBase origin hOrigin, firstOccurrences_append_left]
    rfl
  · exact ⟨summarized, hKept hNone, hExtends⟩

end Configuration

/-! ## The last computation of a run -/

namespace Pipeline

variable {p q : Pipeline}

/-- The pipeline that an edit computes the rows of. An edit that is refused computes none, and
neither does a source that cannot be profiled. -/
def computed? (p : Pipeline) : Edit → Option Pipeline
  | .load rows columns =>
      match Profile.ofColumns rows (columns.getD (columnsOf rows)) with
      | .ok _ => some (p.stored (.load rows columns))
      | .error _ => none
  | .change c =>
      match p.config.change c with
      | .ok _ => some (p.stored (.change c))
      | .error _ => none
  | .recompute => some p

theorem edit_of_computed? {e : Edit} (h : p.computed? e = some q) : p.edit e = q.recompute := by
  cases e with
  | load rows columns =>
      simp only [computed?] at h
      split at h
      · next profiles hProfiles =>
        cases h
        simp only [edit, load, stored, hProfiles]
      · cases h
  | change c =>
      simp only [computed?] at h
      split at h
      · next config hChange =>
        cases h
        simp only [edit, change, stored, hChange]
      · cases h
  | recompute =>
      cases h
      rfl

theorem recompute_config (p : Pipeline) : p.recompute.1.config = p.config := by
  unfold recompute
  split <;> rfl

/-- An edit that computes no rows leaves those on show, and the configuration. -/
theorem edit_of_computed?_eq_none {e : Edit} (h : p.computed? e = none) :
    (p.edit e).1.transformed = p.transformed ∧ (p.edit e).1.config = p.config := by
  cases e with
  | load rows columns =>
      simp only [computed?] at h
      split at h
      · cases h
      · next cause hProfiles => simp [edit, load, hProfiles]
  | change c =>
      simp only [computed?] at h
      split at h
      · cases h
      · next refusal hChange => simp [edit, change, hChange]
  | recompute => cases h

/-- The pipeline that a run of edits computed the rows of last, if it computed any. -/
def lastComputed? (p : Pipeline) : List Edit → Option Pipeline
  | [] => none
  | e :: edits => ((p.edit e).1.lastComputed? edits).or (p.computed? e)

theorem after_of_lastComputed?_eq_none {edits : List Edit} (h : p.lastComputed? edits = none) :
    (p.after edits).transformed = p.transformed ∧ (p.after edits).config = p.config := by
  induction edits generalizing p with
  | nil => exact ⟨rfl, rfl⟩
  | cons e edits ih =>
      obtain ⟨hLater, hFirst⟩ := Option.or_eq_none_iff.1 h
      obtain ⟨hTransformed, hConfig⟩ := edit_of_computed?_eq_none hFirst
      exact ⟨(ih hLater).1.trans hTransformed, (ih hLater).2.trans hConfig⟩

/-- After a run, the rows on show are those of the last computation, and so is the configuration.
-/
theorem after_of_lastComputed? {edits : List Edit} (h : p.lastComputed? edits = some q) :
    (p.after edits).transformed = q.recompute.1.transformed ∧
      (p.after edits).config = q.config := by
  induction edits generalizing p with
  | nil => cases h
  | cons e edits ih =>
      rcases Option.or_eq_some_iff.1 h with hLater | ⟨hNone, hFirst⟩
      · exact ih hLater
      · obtain ⟨hTransformed, hConfig⟩ := after_of_lastComputed?_eq_none hNone
        have hEdit : (p.edit e).1 = q.recompute.1 := congrArg Prod.fst (edit_of_computed? hFirst)
        exact ⟨hTransformed.trans (by rw [hEdit]),
          hConfig.trans (by rw [hEdit, recompute_config])⟩

theorem showsColumns_of_recompute (h : p.recompute.2 = none) :
    p.config.ShowsColumns p.rows p.recompute.1.transformed := by
  have hEnd : p.recompute = (p.recompute.1, none) := Prod.ext rfl h
  rcases recompute_cases hEnd with ⟨transformed, hView, hAfter, -⟩ | ⟨_, _, _, ⟨⟩⟩
  rw [hAfter]
  exact Configuration.showsColumns_of_view hView

/-- **The configuration tells the columns that are shown.** Take any edits of the empty pipeline of
which the last one that came to computing the rows succeeded. If the configuration has an active
pivot or, without one, an aggregation, then each row has the columns of summary rows followed by
those of the formulas, in this order and without repetitions, and these are the columns of the
pipeline. Otherwise each row comes from a row of the source that the rows were computed from, with
the columns of the formulas behind its own, and no other cell changed. As soon as there are rows,
the columns of the pipeline are the columns of its rows, none of them twice. -/
theorem columns_after {edits : List Edit} {source : Pipeline}
    (hSource : empty.lastComputed? edits = some source) (hSuccess : source.recompute.2 = none) :
    (empty.after edits).config.ShowsColumns source.rows (empty.after edits).transformed ∧
      ((empty.after edits).config.summaryColumns?.isSome →
        ∀ row ∈ (empty.after edits).transformed, row.columns = (empty.after edits).columns) ∧
      ((empty.after edits).transformed ≠ [] → (empty.after edits).columns.Nodup ∧
        ∀ name, name ∈ (empty.after edits).columns ↔
          ∃ row ∈ (empty.after edits).transformed, name ∈ row.columns) := by
  obtain ⟨hTransformed, hConfig⟩ := after_of_lastComputed? hSource
  have hShows : (empty.after edits).config.ShowsColumns source.rows
      (empty.after edits).transformed := by
    rw [hTransformed, hConfig]
    exact showsColumns_of_recompute hSuccess
  have hColumns : (empty.after edits).transformed ≠ [] →
      (empty.after edits).columns = columnsOf (empty.after edits).transformed := by
    intro hRows
    rw [columns, if_neg (by simpa using hRows)]
  refine ⟨hShows, fun hSummary row hRow => ?_, fun hRows => ?_⟩
  · obtain ⟨base, hBase⟩ := Option.isSome_iff_exists.1 hSummary
    have hRows := List.ne_nil_of_mem hRow
    rw [hColumns hRows, columnsOf_eq hRows (hShows.summarized base hBase),
      hShows.summarized base hBase row hRow]
  · rw [hColumns hRows]
    exact ⟨nodup_columnsOf _, fun name => mem_columnsOf⟩

/-- A pivot of which one value is a label too, and formulas of which one takes the name of a label.
The last two edits compute nothing: a name that is taken, and a source that cannot be profiled. -/
def editsWithSharedNames : List Edit := [
  .load [Row.ofEntries [("a", .int 1), ("b", .int 2)], Row.ofEntries [("b", .int 3)]] none,
  .change (.setPivot (some ⟨[.text "a", .text "b"], [], [.text "b"], .greatest⟩)),
  .change (.addFormula "a" (.text "b_max * 2")),
  .change (.addFormula "total" (.text "SUM(a)")),
  .change (.addFormula "total" (.text "1")),
  .load [Row.empty.set "c" (.text (String.ofList [Text.ofSurrogate 0xD800]))] none]

theorem columns_after_editsWithSharedNames :
    (empty.after editsWithSharedNames).transformed.length = 2 ∧
      ∀ row ∈ (empty.after editsWithSharedNames).transformed,
        row.columns = ["a", "b", "b_max", "total"] ∧
          row.columns = (empty.after editsWithSharedNames).columns := by
  obtain ⟨source, hSource⟩ : ∃ source, empty.lastComputed? editsWithSharedNames = some source :=
    Option.isSome_iff_exists.1 (by decide +kernel)
  have hSuccess : ∀ source ∈ empty.lastComputed? editsWithSharedNames,
      source.recompute.2 = none := by decide +kernel
  have hSummary : (empty.after editsWithSharedNames).config.summaryColumns? =
      some ["a", "b", "b_max"] := by decide +kernel
  have hNames : (empty.after editsWithSharedNames).config.formulaNames = ["a", "total"] := by
    decide +kernel
  obtain ⟨hShows, hSame, -⟩ := columns_after hSource (hSuccess source hSource)
  refine ⟨by decide +kernel, fun row hRow => ⟨?_, hSame (by rw [hSummary]; rfl) row hRow⟩⟩
  rw [hShows.summarized _ hSummary row hRow, hNames]
  decide

end Pipeline

end TableFlow
