import TableFlow.Proofs.Stage.Counts

/-!
# Summaries partition the rows

Each row has one key, so the groups of different keys have no row in common, and together they hold
all rows. What counts rows can therefore be added up over the groups. The rows that are made of the
groups stand in the order in which the keys occur first.

An aggregation makes its groups by the texts of a column and reduces the numbers of the same column.

## Main results

* `Summary.perm_groups`: the groups together are the rows.
* `Summary.exists_map_of_summarizeBy`: the rows that are made of the groups, in order.
* `Aggregation.apply_partitions`: the summary rows of an aggregation, told from its rows.
-/

namespace TableFlow

namespace Summary

variable {key : Row → Except Fault String} {summary : String → List Row → Except Fault Row}
  {rows out : List Row} {keys : List String}

/-! ## Groups of rows -/

/-- The rows with a key. -/
abbrev group (key : Row → Except Fault String) (rows : List Row) (k : String) : List Row :=
  rows.filter fun row => key row = .ok k

theorem mem_group {row : Row} {k : String} :
    row ∈ group key rows k ↔ row ∈ rows ∧ key row = .ok k := by
  rw [List.mem_filter, decide_eq_true_eq]

/-- The rows with one of some different keys, group after group. -/
private theorem perm_groups_of_nodup (hNodup : keys.Nodup) :
    (keys.flatMap (group key rows)).Perm (rows.filter fun row => ∃ k ∈ keys, key row = .ok k) := by
  induction keys with
  | nil => simp
  | cons first keys ih =>
      obtain ⟨hFirst, hRest⟩ := List.nodup_cons.1 hNodup
      let those := rows.filter fun row => ∃ k ∈ first :: keys, key row = .ok k
      have hWith : those.filter (fun row => key row = .ok first) = group key rows first := by
        rw [List.filter_filter]
        refine List.filter_congr fun row _ => ?_
        by_cases hKey : key row = .ok first <;> simp [hKey]
      have hWithout : those.filter (fun row => !decide (key row = .ok first)) =
          rows.filter fun row => ∃ k ∈ keys, key row = .ok k := by
        rw [List.filter_filter]
        refine List.filter_congr fun row _ => ?_
        by_cases hKey : key row = .ok first
        · simp [hKey, hFirst]
        · simp [hKey]
      have hSplit := List.filter_append_perm (fun row => decide (key row = .ok first)) those
      rw [hWith, hWithout] at hSplit
      exact ((ih hRest).append_left _).trans hSplit

/-- The groups together are the rows. -/
theorem perm_groups (h : rows.mapM key = .ok keys) :
    ((firstOccurrences keys).flatMap (group key rows)).Perm rows := by
  have hAll : (rows.filter fun row => ∃ k ∈ firstOccurrences keys, key row = .ok k) = rows := by
    refine List.filter_eq_self.2 fun row hRow => decide_eq_true ?_
    obtain ⟨k, hk, hKey⟩ := exists_value_of_mapM h row hRow
    exact ⟨k, mem_firstOccurrences.2 hk, hKey⟩
  have hPerm := @perm_groups_of_nodup key rows _ (nodup_firstOccurrences keys)
  rwa [hAll] at hPerm

/-- What is counted in each group adds up to what is counted in all rows. -/
theorem sum_countP_groups (h : rows.mapM key = .ok keys) (p : Row → Bool) :
    ((firstOccurrences keys).map fun k => (group key rows k).countP p).sum = rows.countP p := by
  rw [← (perm_groups h).countP_eq p, List.countP_flatMap]
  rfl

theorem sum_length_groups (h : rows.mapM key = .ok keys) :
    ((firstOccurrences keys).map fun k => (group key rows k).length).sum = rows.length := by
  have hSum := sum_countP_groups h fun _ => true
  simpa only [List.countP_true] using hSum

/-! ## Rows made of groups -/

/-- There is one row for each key, in the order in which the keys occur first. -/
theorem exists_map_of_summarizeBy (hKeys : rows.mapM key = .ok keys)
    (h : summarizeBy key summary rows = .ok out) :
    ∃ row : String → Row, out = (firstOccurrences keys).map row ∧
      ∀ k ∈ firstOccurrences keys, summary k (group key rows k) = .ok (row k) := by
  obtain ⟨groups, hGroups, h⟩ := bind_eq_ok_iff.1 h
  cases (groupRows_eq hKeys).symm.trans hGroups
  rw [List.mapM_map] at h
  exact exists_map_of_mapM h

theorem forall₂_of_summarizeBy (hKeys : rows.mapM key = .ok keys)
    (h : summarizeBy key summary rows = .ok out) :
    List.Forall₂ (fun k row => summary k (group key rows k) = .ok row)
      (firstOccurrences keys) out := by
  obtain ⟨row, rfl, hRow⟩ := exists_map_of_summarizeBy hKeys h
  rw [List.forall₂_map_right_iff]
  exact List.forall₂_same.2 hRow

end Summary

/-! ## Aggregations -/

namespace Aggregation

/-- What the summary row of a group shows besides its key: how many rows there are, and the
reduction of the numbers in their order. Counting counts rows, and the mean of no numbers is
zero. -/
structure Describes (aggregation : Aggregation) (group : List Row) (row : Row) : Prop where
  count : row.get countColumn = .int group.length
  value : ∃ xs, columnNumbers group aggregation.column = .ok xs ∧
    row.get valueColumn =
      if aggregation.operation = .count then .int group.length
      else if aggregation.operation = .mean ∧ xs = [] then .int 0
      else aggregation.operation.reduce xs

variable {aggregation : Aggregation}

theorem value_eq {group : List Row} {xs : List Binary64}
    (h : columnNumbers group aggregation.column = .ok xs) :
    aggregation.value group = .ok
      (if aggregation.operation = .count then .int group.length
      else if aggregation.operation = .mean ∧ xs = [] then .int 0
      else aggregation.operation.reduce xs) := by
  obtain ⟨column, operation⟩ := aggregation
  simp only [value]
  cases operation with
  | count => rfl
  | mean =>
      rw [h]
      cases xs with
      | nil => rfl
      | cons x xs => rfl
  | sum => rw [h]; rfl
  | median => rw [h]; rfl
  | least => rw [h]; rfl
  | greatest => rw [h]; rfl

theorem describes_of_summary {group : List Row} {k : String} {row : Row} {xs : List Binary64}
    (hNumbers : columnNumbers group aggregation.column = .ok xs)
    (h : aggregation.summary k group = .ok row) : aggregation.Describes group row := by
  obtain ⟨value, hValue, h⟩ := bind_eq_ok_iff.1 h
  cases h
  cases (value_eq hNumbers).symm.trans hValue
  have hNames : (countColumn == valueColumn) = false := by decide
  constructor
  · simp [Row.get, Row.get?_ofEntries, List.lookup_cons, hNames]
  · exact ⟨xs, hNumbers, by simp [Row.get, Row.get?_ofEntries]⟩

/-- **An aggregation partitions the rows**, if whole numbers fit the format. There is one summary
row for each text of the column, in the order in which the texts occur first. It counts the rows
with that text and reduces their numbers, and the counts add up to the number of rows. If the column
is not one of the two that are added, it shows the texts, each of them once. -/
theorem apply_partitions (aggregation : Aggregation) {rows : List Row}
    (hFits : ∀ row ∈ rows, row.FitsFormat) :
    ∃ texts keys summaries,
      (rows.mapM fun row => (row.get aggregation.column).toText) = .ok texts ∧
      ListsNames keys texts ∧ aggregation.apply rows = .ok summaries ∧
      List.Forall₂ (fun k row => aggregation.Describes
        (rows.filter fun row => (row.get aggregation.column).toText = .ok k) row) keys summaries ∧
      (∃ counts : List Nat, summaries.map (·.get countColumn) = counts.map (fun n => .int n) ∧
        counts.sum = rows.length) ∧
      (aggregation.column ≠ countColumn → aggregation.column ≠ valueColumn →
        summaries.map (·.get aggregation.column) = keys.map .text ∧
          (summaries.map (·.get aggregation.column)).Nodup) := by
  have hConverts : ∀ row ∈ rows, row.Converts := fun row hRow => (hFits row hRow).converts
  obtain ⟨texts, hTexts, -⟩ :=
    hasValue_mapM fun row hRow => (hConverts row hRow aggregation.column).1
  obtain ⟨summaries, hSummaries, -⟩ := aggregation.hasValue_apply hConverts
  have hKeys : rows.mapM aggregation.key = .ok texts := hTexts
  have hMade : List.Forall₂ (fun k row => aggregation.summary k
      (Summary.group aggregation.key rows k) = .ok row) (firstOccurrences texts) summaries :=
    Summary.forall₂_of_summarizeBy hKeys hSummaries
  have hDescribes : List.Forall₂ (fun k row => aggregation.Describes
      (Summary.group aggregation.key rows k) row) (firstOccurrences texts) summaries := by
    refine hMade.imp fun k row hRow => ?_
    obtain ⟨xs, hNumbers, -⟩ := succeeds_columnNumbers
      (fun row hRow => hConverts row (Summary.mem_group.1 hRow).1) aggregation.column
    exact describes_of_summary hNumbers hRow
  refine ⟨texts, firstOccurrences texts, summaries, hTexts, listsNames_firstOccurrences texts,
    hSummaries, hDescribes, ⟨_, ?_, Summary.sum_length_groups hKeys⟩, fun hCount hValue => ?_⟩
  · rw [List.map_map]
    refine (map_eq_map_of_forall₂ hDescribes fun k row hRow => ?_).symm
    exact hRow.count.symm
  · have hShown : summaries.map (·.get aggregation.column) =
        (firstOccurrences texts).map .text := by
      refine (map_eq_map_of_forall₂ hMade fun k row hRow => ?_).symm
      exact (shows_of_summary hCount hValue hRow).1.symm
    refine ⟨hShown, ?_⟩
    rw [hShown]
    exact (nodup_firstOccurrences texts).map fun _ _ => Cell.text.inj

/-- Cells of several kinds that share texts. Of two cells with one text one can be a number and the
other not, and a group can be without any number. -/
def sharedTexts : List Row := [
  Row.ofEntries [("v", .bool true)], Row.ofEntries [("v", .text "1")],
  Row.ofEntries [("v", .text "true")], Row.ofEntries [("v", .int 1)], Row.ofEntries [("k", .int 2)],
  Row.ofEntries [("v", .float (Binary64.nearestInt 1))], Row.ofEntries [("v", .text "")],
  Row.ofEntries [("v", .float .nan)], Row.ofEntries [("v", .text "NaN")]]

theorem apply_partitions_sharedTexts :
    ∃ keys summaries, ListsNames keys ["true", "1", "true", "1", "", "1", "", "NaN", "NaN"] ∧
      (Aggregation.mk "v" .mean).apply sharedTexts = .ok summaries ∧
      List.Forall₂ (fun k row => (Aggregation.mk "v" .mean).Describes
        (sharedTexts.filter fun row => (row.get "v").toText = .ok k) row) keys summaries ∧
      (∃ counts : List Nat, summaries.map (·.get countColumn) = counts.map (fun n => .int n) ∧
        counts.sum = 9) ∧
      summaries.map (·.get "v") = keys.map .text ∧ (summaries.map (·.get "v")).Nodup := by
  obtain ⟨texts, keys, summaries, hTexts, hKeys, hSummaries, hDescribes, hCounts, hShown⟩ :=
    @apply_partitions ⟨"v", .mean⟩ sharedTexts (by decide +kernel)
  have hEach : (sharedTexts.mapM fun row => (row.get "v").toText) =
      .ok ["true", "1", "true", "1", "", "1", "", "NaN", "NaN"] := by
    decide +kernel
  cases hTexts.symm.trans hEach
  exact ⟨keys, summaries, hKeys, hSummaries, hDescribes, hCounts, hShown (by decide) (by decide)⟩

end Aggregation

end TableFlow
