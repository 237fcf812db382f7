import TableFlow.Proofs.Pivot.Partition

/-!
# Aggregations and pivots of one column

A pivot by one column that reduces this column groups like an aggregation of it: a key that is
joined of one text is the text. So both make one row for each text, in the same order. They differ
in three things. A pivot splits the text that it shows from the key; the mean of no numbers is zero
in an aggregation and missing in a pivot; and an aggregation counts the rows of a group where a
pivot counts its numbers.

## Main results

* `Pivot.get_column_eq_iff`: the texts that a pivot by one column shows.
* `agree_of_summary`: the rows that are made of one group.
* `aggregation_agrees_with_pivot`: the rows that are made of a table.
-/

namespace TableFlow

namespace Pivot

/-- The pivot that groups by a column and reduces the same column. -/
def single (column : String) (operation : PivotOperation) : Pivot :=
  { rows := [column], values := [column], aggregation := operation }

variable {column k : String} {operation : PivotOperation} {group : List Row} {row : Row}

/-- A key of one text is the text. -/
theorem key_single (column : String) (operation : PivotOperation) :
    (single column operation).key = fun row => (row.get column).toText := by
  funext row
  show ([column].mapM fun column => (row.get column).toText) >>= (fun labels =>
    .ok (keyOfLabels labels)) = _
  rw [List.mapM_cons, List.mapM_nil]
  cases (row.get column).toText with
  | error fault => rfl
  | ok text => exact congrArg Except.ok (String.ofList_toList)

/-- The first text that a key is split into is the key, exactly if it does not hold the
separator. -/
theorem labelsOfKey_getElem?_zero_iff :
    (labelsOfKey k)[0]? = some k ↔ ¬ separator <:+: k.toList := by
  constructor
  · intro hFirst
    obtain ⟨piece, pieces, hPieces⟩ :=
      List.exists_cons_of_ne_nil (Text.splitOn_ne_nil separator k.toList)
    have hJoin := Text.join_splitOn separator_ne_nil k.toList
    have hSeparable := Text.separable_splitOn separator_ne_nil k.toList
    rw [labelsOfKey, hPieces, List.map_cons, List.getElem?_cons_zero, Option.some.injEq] at hFirst
    rw [hPieces] at hJoin hSeparable
    rw [← hFirst, String.toList_ofList] at hJoin ⊢
    by_cases hLast : pieces = []
    · subst hLast
      exact hSeparable
    · rw [Text.join_cons _ _ hLast, List.append_assoc] at hJoin
      simp [separator] at hJoin
  · intro hOne
    rw [labelsOfKey, Text.splitOn_eq_singleton hOne, List.map_singleton, String.ofList_toList]
    rfl

theorem valueName_ne (pivot : Pivot) (column : String) : pivot.valueName column ≠ column := by
  intro hSame
  have hLength := congrArg (fun s => s.toList.length) hSame
  simp [valueName] at hLength

theorem labelEntries_single (column : String) (operation : PivotOperation) (k : String) :
    (single column operation).labelEntries k =
      [(column, (labelsOfKey k)[0]?.elim .missing .text)] := by
  simp only [labelEntries, single, List.zipIdx_singleton, List.map_singleton]
  cases (labelsOfKey k)[0]? <;> rfl

/-- A pivot by one column shows the key, exactly if it does not hold the separator. -/
theorem get_column_eq_iff (h : (single column operation).summary k group = .ok row) :
    row.get column = .text k ↔ ¬ separator <:+: k.toList := by
  obtain ⟨values, hValues, h⟩ := bind_eq_ok_iff.1 h
  cases h
  have hCell : (Row.ofEntries ((single column operation).labelEntries k ++ values)).get column =
      (labelsOfKey k)[0]?.elim .missing .text := by
    rw [← List.nil_append (_ ++ values), labelEntries_single]
    refine Row.get_ofEntries_append (by simp) fun entry hEntry hName => ?_
    obtain hLabel | hValue := List.mem_append.1 hEntry
    · rw [List.mem_singleton.1 hLabel]
    · have hNamed := List.mem_map_of_mem (f := Prod.fst) hValue
      rw [map_fst_of_valueEntries hValues, hName] at hNamed
      exact absurd (List.mem_singleton.1 hNamed).symm (valueName_ne _ _)
  rw [hCell, ← labelsOfKey_getElem?_zero_iff]
  cases (labelsOfKey k)[0]? <;> simp

end Pivot

open Aggregation (countColumn valueColumn)
open Pivot (separator single)

/-! ## The rows of one group -/

/-- The mean of numbers is missing exactly if there are none. -/
theorem isMissing_reduce_mean (xs : List Binary64) :
    (Reduction.mean.reduce xs).isMissing = xs.isEmpty := by
  cases xs <;> rfl

/-- The rows that aggregations and pivots by one column make of the group of a text. -/
structure Agree (column : String) (k : String) (group : List Row) (summary : Reduction → Row)
    (pivoted : PivotOperation → Row) : Prop where
  summary_text : ∀ operation, (summary operation).get column = .text k
  /-- A pivot shows the text unless it holds the separator of keys. -/
  pivoted_text : ∀ operation,
    (pivoted operation).get column = .text k ↔ ¬ separator <:+: k.toList
  value : ∀ operation ∈ [PivotOperation.sum, .least, .greatest],
    (summary operation.reduction).get valueColumn =
      (pivoted operation).get ((single column operation).valueName column)
  /-- Only an aggregation takes the mean of no numbers for zero. -/
  mean : (summary .mean).get valueColumn =
    let average := (pivoted .average).get ((single column .average).valueName column)
    if average.isMissing then .int 0 else average
  /-- An aggregation counts rows, a pivot counts numbers. -/
  count : ∃ n : Nat, (pivoted .count).get ((single column .count).valueName column) = .int n ∧
    (∀ operation, (summary operation).get countColumn = .int group.length) ∧ n ≤ group.length ∧
    (n = group.length ↔ ∀ row ∈ group, (row.get column).isNumeric)

theorem agree_of_summary {column k : String} {group : List Row} {xs : List Binary64}
    {summary : Reduction → Row} {pivoted : PivotOperation → Row}
    (hCount : column ≠ countColumn) (hValue : column ≠ valueColumn)
    (hNumbers : columnNumbers group column = .ok xs)
    (hSummary : ∀ operation,
      (Aggregation.mk column operation).summary k group = .ok (summary operation))
    (hPivoted : ∀ operation, (single column operation).summary k group = .ok (pivoted operation)) :
    Agree column k group summary pivoted := by
  have hAggregated : ∀ operation, (summary operation).get valueColumn =
      if operation = .count then .int group.length
      else if operation = .mean ∧ xs = [] then .int 0
      else operation.reduce xs := by
    intro operation
    obtain ⟨xs', hNumbers', hCell⟩ :=
      (Aggregation.describes_of_summary hNumbers (hSummary operation)).value
    cases hNumbers.symm.trans hNumbers'
    exact hCell
  have hReduced : ∀ operation, (pivoted operation).get
      ((single column operation).valueName column) = operation.reduction.reduce xs := by
    intro operation
    obtain ⟨xs', hNumbers', hCell⟩ :=
      Pivot.showsReductions_of_summary (hPivoted operation) column (List.mem_singleton_self column)
    cases hNumbers.symm.trans hNumbers'
    exact hCell
  exact
    { summary_text := fun operation =>
        (Aggregation.shows_of_summary hCount hValue (hSummary operation)).1
      pivoted_text := fun operation => Pivot.get_column_eq_iff (hPivoted operation)
      value := by
        simp [hAggregated, hReduced, PivotOperation.reduction]
      mean := by
        rw [hAggregated, hReduced]
        simp only [PivotOperation.reduction, isMissing_reduce_mean]
        cases xs <;> rfl
      count := by
        refine ⟨_, hReduced .count, fun operation =>
          (Aggregation.shows_of_summary hCount hValue (hSummary operation)).2, ?_, ?_⟩
        · rw [length_of_columnNumbers hNumbers]
          exact List.countP_le_length
        · rw [length_of_columnNumbers hNumbers]
          exact List.countP_eq_length }

/-! ## The rows of a table -/

/-- **An aggregation and a pivot of one column agree**, if the column is not one of the two that the
aggregation adds, and whole numbers fit the format. Each reduction of either one makes one row for
each text of the column, in the order in which the texts occur first. Sums and extremes are equal,
means are if there is a number, and the pivot counts fewer rows if one has no number. If a text
holds the separator of keys, the pivot shows another text in its place. -/
theorem aggregation_agrees_with_pivot {column : String} {rows : List Row}
    (hCount : column ≠ countColumn) (hValue : column ≠ valueColumn)
    (hFits : ∀ row ∈ rows, row.FitsFormat) :
    ∃ texts keys, ∃ summary : Reduction → String → Row, ∃ pivoted : PivotOperation → String → Row,
      (rows.mapM fun row => (row.get column).toText) = .ok texts ∧ ListsNames keys texts ∧
      (∀ operation, (Aggregation.mk column operation).apply rows =
        .ok (keys.map (summary operation))) ∧
      (∀ operation, (single column operation).apply rows = .ok (keys.map (pivoted operation))) ∧
      ∀ k ∈ keys, Agree column k (rows.filter fun row => (row.get column).toText = .ok k)
        (fun operation => summary operation k) fun operation => pivoted operation k := by
  have hConverts : ∀ row ∈ rows, row.Converts := fun row hRow => (hFits row hRow).converts
  obtain ⟨texts, hTexts, -⟩ := hasValue_mapM fun row hRow => (hConverts row hRow column).1
  have hAggregation : ∀ operation, ∃ summary : String → Row,
      (Aggregation.mk column operation).apply rows =
        .ok ((firstOccurrences texts).map summary) ∧
      ∀ k ∈ firstOccurrences texts, (Aggregation.mk column operation).summary k
        (rows.filter fun row => (row.get column).toText = .ok k) = .ok (summary k) := by
    intro operation
    obtain ⟨out, hOut, -⟩ := (Aggregation.mk column operation).hasValue_apply hConverts
    obtain ⟨summary, rfl, hSummary⟩ := @Summary.exists_map_of_summarizeBy
      (Aggregation.mk column operation).key (Aggregation.mk column operation).summary _ _ _
      hTexts hOut
    exact ⟨summary, hOut, hSummary⟩
  have hPivot : ∀ operation, ∃ pivoted : String → Row,
      (single column operation).apply rows = .ok ((firstOccurrences texts).map pivoted) ∧
      ∀ k ∈ firstOccurrences texts, (single column operation).summary k
        (rows.filter fun row => (row.get column).toText = .ok k) = .ok (pivoted k) := by
    intro operation
    obtain ⟨out, hOut, -⟩ := (single column operation).hasValue_apply hConverts
    have hMade := hOut
    rw [Pivot.apply_of_isActive rfl, Pivot.key_single] at hMade
    obtain ⟨pivoted, rfl, hPivoted⟩ := Summary.exists_map_of_summarizeBy hTexts hMade
    exact ⟨pivoted, hOut, hPivoted⟩
  choose summary hSummaries hSummary using hAggregation
  choose pivoted hPivots hPivoted using hPivot
  refine ⟨texts, firstOccurrences texts, summary, pivoted, hTexts,
    listsNames_firstOccurrences texts, hSummaries, hPivots, fun k hk => ?_⟩
  obtain ⟨xs, hNumbers, -⟩ := succeeds_columnNumbers
    (fun row hRow => hConverts row (List.mem_filter.1 hRow).1) column
  exact agree_of_summary hCount hValue hNumbers (fun operation => hSummary operation k hk)
    fun operation => hPivoted operation k hk

/-- Groups with as many numbers as rows, with fewer, and without any, and a text that holds the
separator of keys. -/
def numbersAndTexts : List Row :=
  [Cell.bool true, .text "1", .text "true", .int 1, .missing, .text "a::b"].map fun cell =>
    Row.ofEntries [("v", cell)]

theorem aggregation_agrees_numbersAndTexts :
    ∃ keys, ∃ summary : Reduction → String → Row, ∃ pivoted : PivotOperation → String → Row,
      ListsNames keys ["true", "1", "true", "1", "", "a::b"] ∧
      (Aggregation.mk "v" .mean).apply numbersAndTexts = .ok (keys.map (summary .mean)) ∧
      (single "v" .count).apply numbersAndTexts = .ok (keys.map (pivoted .count)) ∧
      ∀ k ∈ keys,
        Agree "v" k (numbersAndTexts.filter fun row => (row.get "v").toText = .ok k)
          (fun operation => summary operation k) fun operation => pivoted operation k := by
  obtain ⟨texts, keys, summary, pivoted, hTexts, hKeys, hSummaries, hPivots, hAgree⟩ :=
    @aggregation_agrees_with_pivot "v" numbersAndTexts (by decide) (by decide) (by decide +kernel)
  have hEach : (numbersAndTexts.mapM fun row => (row.get "v").toText) =
      .ok ["true", "1", "true", "1", "", "a::b"] := by
    decide +kernel
  cases hTexts.symm.trans hEach
  exact ⟨keys, summary, pivoted, hKeys, hSummaries .mean, hPivots .count, hAgree⟩

end TableFlow
