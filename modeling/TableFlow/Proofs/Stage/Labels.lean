import TableFlow.Proofs.Pivot.Partition

/-!
# Labels of summary rows

A summary row puts the texts that its group shares and the cells that are computed for it under
names of one row. The names of the computed cells are told by the configuration, and nothing keeps
them apart from the columns to group by: a computed cell takes the place of a text that has its
name. It is a number or missing, so the text is lost, and rows of different groups can be the same.

## Main results

* `Aggregation.showsLabel_iff` and `Pivot.showsLabel_iff`: which texts a summary row shows.
* `pairwise_of_showsLabel`: rows that show the texts of their groups differ.
* `labels_shown`: the rows of an aggregation and of a pivot show exactly the texts whose columns are
  not computed.
-/

namespace TableFlow

/-- The row shows the text that the rows of a group share in a column. -/
def ShowsLabel (column : String) (group : List Row) (row : Row) : Prop :=
  ∃ text, row.get column = .text text ∧ ∀ member ∈ group, (member.get column).toText = .ok text

/-- The rows that are made of groups show the texts that the rows of each group share, except under
the names of computed cells. If no column to group by has such a name, any two of them differ in one
of these columns. -/
structure ShowLabels (labels computed : List String) (groups : Groups Row)
    (summaries : List Row) : Prop where
  shown : List.Forall₂ (fun group row => ∀ column ∈ labels,
    ShowsLabel column group.2 row ↔ column ∉ computed) groups summaries
  differ : (∀ column ∈ labels, column ∉ computed) →
    summaries.Pairwise fun row row' => ∃ column ∈ labels, row.get column ≠ row'.get column

/-! ## Rows of different groups -/

section

variable {key : Row → Except Fault String} {rows summaries : List Row} {keys labels : List String}

/-- A column in which two rows agree, if each shows the text of its group, has one text in rows of
the two groups. -/
theorem toText_eq_of_showsLabel {column k k' : String} {row row' member member' : Row}
    (h : ShowsLabel column (Summary.group key rows k) row)
    (h' : ShowsLabel column (Summary.group key rows k') row')
    (hMember : member ∈ Summary.group key rows k) (hMember' : member' ∈ Summary.group key rows k')
    (hAgree : row.get column = row'.get column) :
    (member.get column).toText = (member'.get column).toText := by
  obtain ⟨text, hShown, hTexts⟩ := h
  obtain ⟨text', hShown', hTexts'⟩ := h'
  rw [hTexts member hMember, hTexts' member' hMember']
  rw [hShown, hShown', Cell.text.injEq] at hAgree
  rw [hAgree]

/-- Rows that show the texts of their groups differ, if rows with the same texts share a key. -/
theorem pairwise_of_showsLabel
    (hKey : ∀ row row' : Row, (∀ column ∈ labels,
      (row.get column).toText = (row'.get column).toText) → key row = key row')
    (hNodup : keys.Nodup) (hMembers : ∀ k ∈ keys, ∃ row ∈ rows, key row = .ok k)
    (h : List.Forall₂ (fun k row => ∀ column ∈ labels,
      ShowsLabel column (Summary.group key rows k) row) keys summaries) :
    summaries.Pairwise fun row row' => ∃ column ∈ labels, row.get column ≠ row'.get column := by
  induction h with
  | nil => exact .nil
  | @cons k row keys summaries hFirst hRest ih =>
      obtain ⟨hNew, hNodup⟩ := List.nodup_cons.1 hNodup
      obtain ⟨⟨member, hMember, hk⟩, hMembers⟩ := List.forall_mem_cons.1 hMembers
      refine .cons (fun row' hRow' => ?_) (ih hNodup hMembers)
      obtain ⟨k', hk', hShows⟩ := exists_of_mem_of_forall₂ hRest row' hRow'
      obtain ⟨member', hMember', hKey'⟩ := hMembers k' hk'
      by_contra hSame
      push Not at hSame
      have hKeys : key member = key member' := hKey member member' fun column hColumn =>
        toText_eq_of_showsLabel (hFirst column hColumn) (hShows column hColumn)
          (Summary.mem_group.2 ⟨hMember, hk⟩) (Summary.mem_group.2 ⟨hMember', hKey'⟩)
          (hSame column hColumn)
      rw [hk, hKey', Except.ok.injEq] at hKeys
      exact hNew (hKeys ▸ hk')

/-- What is known of the row of each group is known of all groups and their rows. -/
theorem showLabels_of_forall₂ {computed : List String}
    (hKey : ∀ row row' : Row, (∀ column ∈ labels,
      (row.get column).toText = (row'.get column).toText) → key row = key row')
    (hNodup : keys.Nodup) (hMembers : ∀ k ∈ keys, ∃ row ∈ rows, key row = .ok k)
    (h : List.Forall₂ (fun k row => ∀ column ∈ labels,
      ShowsLabel column (Summary.group key rows k) row ↔ column ∉ computed) keys summaries) :
    ShowLabels labels computed (keys.map fun k => (k, Summary.group key rows k)) summaries where
  shown := List.forall₂_map_left_iff.2 h
  differ hApart := pairwise_of_showsLabel hKey hNodup hMembers <|
    h.imp fun _ _ hRow column hColumn => (hRow column hColumn).2 (hApart column hColumn)

end

/-! ## Computed cells -/

theorem Reduction.reduce_ne_text (operation : Reduction) (xs : List Binary64) (text : String) :
    operation.reduce xs ≠ .text text := by
  have hNumber : ∀ x?, cellOfNumber? x? ≠ .text text := by rintro (_ | _) ⟨⟩
  cases operation with
  | sum => rintro ⟨⟩
  | mean => exact hNumber _
  | median => exact hNumber _
  | count => rintro ⟨⟩
  | least => exact hNumber _
  | greatest => exact hNumber _

namespace Aggregation

variable {aggregation : Aggregation} {rows : List Row} {k : String} {row : Row}
  {xs : List Binary64}

/-- The names of the computed cells of an aggregation. -/
def computedColumns : List String := [countColumn, valueColumn]

theorem Describes.get_ne_text {group : List Row} (h : aggregation.Describes group row)
    {column : String} (hColumn : column ∈ computedColumns) (text : String) :
    row.get column ≠ .text text := by
  obtain ⟨hCount, xs, -, hValue⟩ := h
  simp only [computedColumns, List.mem_cons, List.not_mem_nil, or_false] at hColumn
  rcases hColumn with rfl | rfl
  · rw [hCount]
    rintro ⟨⟩
  · rw [hValue]
    split
    · rintro ⟨⟩
    · split
      · rintro ⟨⟩
      · exact Reduction.reduce_ne_text _ _ _

/-- The summary row of a group shows its text, if and only if the column has another name than the
computed cells. -/
theorem showsLabel_iff
    (hNumbers : columnNumbers (Summary.group aggregation.key rows k) aggregation.column = .ok xs)
    (h : aggregation.summary k (Summary.group aggregation.key rows k) = .ok row) :
    ShowsLabel aggregation.column (Summary.group aggregation.key rows k) row ↔
      aggregation.column ∉ computedColumns := by
  constructor
  · rintro ⟨text, hText, -⟩ hComputed
    exact (describes_of_summary hNumbers h).get_ne_text hComputed text hText
  · intro hApart
    have hNames : aggregation.column ≠ countColumn ∧ aggregation.column ≠ valueColumn := by
      simpa [computedColumns] using hApart
    refine ⟨k, (shows_of_summary hNames.1 hNames.2 h).1, fun member hMember => ?_⟩
    exact (Summary.mem_group.1 hMember).2

end Aggregation

namespace Pivot

variable {pivot : Pivot} {rows : List Row} {k : String} {row : Row}

/-- The names of the computed cells of a pivot. -/
def computedColumns (pivot : Pivot) : List String := pivot.values.map pivot.valueName

/-- The row of a group shows the text of a column to group by, if and only if the column has another
name than the computed cells. -/
theorem showsLabel_iff (hActive : pivot.isActive)
    (hLabelled : ∀ row ∈ rows, ∃ labels, pivot.labels row = .ok labels ∧ KeptApart labels)
    (hKey : ∃ row ∈ rows, pivot.key row = .ok k)
    (h : pivot.summary k (Summary.group pivot.key rows k) = .ok row) {column : String}
    (hColumn : column ∈ pivot.rows) :
    ShowsLabel column (Summary.group pivot.key rows k) row ↔ column ∉ pivot.computedColumns := by
  refine ⟨?_, label_of_group hActive hLabelled hKey h hColumn⟩
  rintro ⟨text, hText, -⟩ hComputed
  obtain ⟨value, hValue, rfl⟩ := List.mem_map.1 hComputed
  obtain ⟨xs, -, hCell⟩ := showsReductions_of_summary h value hValue
  exact Reduction.reduce_ne_text _ xs text (hCell.symm.trans hText)

/-- Rows with the same texts in the columns to group by share a key. -/
theorem key_congr {row row' : Row} (h : ∀ column ∈ pivot.rows,
    (row.get column).toText = (row'.get column).toText) : pivot.key row = pivot.key row' := by
  have hLabels : pivot.labels row = pivot.labels row' := mapM_congr_left h
  rw [key, key, hLabels]

end Pivot

/-! ## Both stages -/

section

variable {rows : List Row} (hFits : ∀ row ∈ rows, row.FitsFormat)

include hFits

theorem Aggregation.showLabels (aggregation : Aggregation) :
    ∃ groups summaries, groupRows aggregation.key rows = .ok groups ∧
      aggregation.apply rows = .ok summaries ∧
      ShowLabels [aggregation.column] computedColumns groups summaries := by
  have hConverts : ∀ row ∈ rows, row.Converts := fun row hRow => (hFits row hRow).converts
  obtain ⟨texts, hTexts, -⟩ :=
    hasValue_mapM fun row hRow => (hConverts row hRow aggregation.column).1
  have hKeys : rows.mapM aggregation.key = .ok texts := hTexts
  obtain ⟨summaries, hSummaries, -⟩ := aggregation.hasValue_apply hConverts
  refine ⟨_, summaries, groupRows_eq hKeys, hSummaries, showLabels_of_forall₂ ?_
    (nodup_firstOccurrences texts)
    (fun k hk => (mem_of_mapM hKeys).1 (mem_firstOccurrences.1 hk)) ?_⟩
  · intro row row' hSame
    exact hSame aggregation.column List.mem_cons_self
  · refine (Summary.forall₂_of_summarizeBy hKeys hSummaries).imp fun k row hRow column hColumn => ?_
    obtain ⟨xs, hNumbers, -⟩ := succeeds_columnNumbers
      (fun row hRow => hConverts row (Summary.mem_group.1 hRow).1) aggregation.column
    rw [List.mem_singleton.1 hColumn]
    exact showsLabel_iff hNumbers hRow

theorem Pivot.showLabels {pivot : Pivot} (hActive : pivot.isActive)
    (hPlain : ∀ row ∈ rows, ∀ column ∈ pivot.rows, ∀ text, (row.get column).toText = .ok text →
      ':' ∉ text.toList) :
    ∃ groups summaries, groupRows pivot.key rows = .ok groups ∧ pivot.apply rows = .ok summaries ∧
      ShowLabels pivot.rows pivot.computedColumns groups summaries := by
  have hConverts : ∀ row ∈ rows, row.Converts := fun row hRow => (hFits row hRow).converts
  have hLabelled := exists_keptApart
    (fun row hRow => hasValue_mapM fun column _ => (hConverts row hRow column).1) hPlain
  obtain ⟨texts, hTexts, -⟩ := hasValue_mapM fun row hRow => pivot.hasValue_key (hConverts row hRow)
  obtain ⟨summaries, hSummaries, -⟩ := pivot.hasValue_apply hConverts
  have hMembers : ∀ k ∈ firstOccurrences texts, ∃ row ∈ rows, pivot.key row = .ok k :=
    fun k hk => (mem_of_mapM hTexts).1 (mem_firstOccurrences.1 hk)
  have hMade := Summary.forall₂_of_summarizeBy hTexts
    ((apply_of_isActive hActive).symm.trans hSummaries)
  refine ⟨_, summaries, groupRows_eq hTexts, hSummaries, showLabels_of_forall₂
    (fun row row' => key_congr) (nodup_firstOccurrences texts) hMembers ?_⟩
  refine ((List.forall₂_and_left _ _).2 ⟨hMembers, hMade⟩).imp fun k row h column hColumn => ?_
  exact showsLabel_iff hActive hLabelled h.1 h.2 hColumn

end

/-- **Summary rows show labels unless a computed cell has their name**, if whole numbers fit the
format and, for a pivot, no text of a column to group by holds a colon. Each row of an aggregation
or of an active pivot shows, in exactly those columns to group by that are not computed, the text
that the rows of its group share. If none of them is computed, the rows of any two groups differ in
one of these columns. -/
theorem labels_shown {rows : List Row} (hFits : ∀ row ∈ rows, row.FitsFormat) :
    (∀ aggregation : Aggregation, ∃ groups summaries,
      groupRows aggregation.key rows = .ok groups ∧ aggregation.apply rows = .ok summaries ∧
      ShowLabels [aggregation.column] Aggregation.computedColumns groups summaries) ∧
    ∀ pivot : Pivot, pivot.isActive →
      (∀ row ∈ rows, ∀ column ∈ pivot.rows, ∀ text, (row.get column).toText = .ok text →
        ':' ∉ text.toList) →
      ∃ groups summaries, groupRows pivot.key rows = .ok groups ∧
        pivot.apply rows = .ok summaries ∧
        ShowLabels pivot.rows pivot.computedColumns groups summaries :=
  ⟨fun aggregation => aggregation.showLabels hFits, fun _ hActive hPlain =>
    Pivot.showLabels hFits hActive hPlain⟩

/-- Rows with two columns to group by, the second of which has the name of the sum of `v`. -/
def summedBefore : List Row := [
  Row.ofEntries [("k", .text "a"), ("v_sum", .int 7), ("v", .int 1)],
  Row.ofEntries [("k", .bool true), ("v_sum", .text "7"), ("v", .float (Binary64.nearestInt 3))],
  Row.ofEntries [("k", .text "a"), ("v_sum", .float (Binary64.nearestInt 7)), ("v", .int 2)]]

/-- A pivot whose computed cell has the name of its second column. -/
def byOwnSum : Pivot := ⟨["k", "v_sum"], [], ["v"], .sum⟩

theorem labels_shown_summedBefore :
    (∃ groups summaries, groupRows (Aggregation.mk "v" .mean).key summedBefore = .ok groups ∧
      (Aggregation.mk "v" .mean).apply summedBefore = .ok summaries ∧
      List.Forall₂ (fun group row => ShowsLabel "v" group.2 row) groups summaries ∧
      summaries.Pairwise fun row row' => row.get "v" ≠ row'.get "v") ∧
    ∃ groups summaries, groupRows byOwnSum.key summedBefore = .ok groups ∧
      byOwnSum.apply summedBefore = .ok summaries ∧
      List.Forall₂ (fun group row => ShowsLabel "k" group.2 row ∧ ¬ ShowsLabel "v_sum" group.2 row)
        groups summaries := by
  obtain ⟨hAggregation, hPivot⟩ := @labels_shown summedBefore (by decide +kernel)
  constructor
  · obtain ⟨groups, summaries, hGroups, hSummaries, hShown, hDiffer⟩ := hAggregation ⟨"v", .mean⟩
    refine ⟨groups, summaries, hGroups, hSummaries, hShown.imp fun group row hRow => ?_, ?_⟩
    · exact (hRow "v" (by decide)).2 (by decide)
    · simpa using hDiffer (by decide)
  · have hPlain : ∀ row ∈ summedBefore, ∀ column ∈ byOwnSum.rows,
        Succeeds (row.get column).toText fun text => ':' ∉ text.toList := by
      decide +kernel
    obtain ⟨groups, summaries, hGroups, hSummaries, hShown, -⟩ :=
      hPivot byOwnSum rfl fun row hRow column hColumn text hText => by
        obtain ⟨text', hText', hNone⟩ := hPlain row hRow column hColumn
        cases hText.symm.trans hText'
        exact hNone
    refine ⟨groups, summaries, hGroups, hSummaries, hShown.imp fun group row hRow => ⟨?_, ?_⟩⟩
    · exact (hRow "k" (by decide)).2 (by decide)
    · rw [hRow "v_sum" (by decide), not_not]
      decide

/-- A row with one text. -/
def oneLabel (column text : String) : Row := Row.ofEntries [(column, .text text)]

/-- Two groups whose rows are the same and show neither text. The column has the name of the counts
of an aggregation, or the name of the sums of a pivot. -/
theorem exists_lost_labels :
    (∃ row, groupRows (Aggregation.mk "_count" .sum).key
        [oneLabel "_count" "a", oneLabel "_count" "b"] =
          .ok [("a", [oneLabel "_count" "a"]), ("b", [oneLabel "_count" "b"])] ∧
      (Aggregation.mk "_count" .sum).apply [oneLabel "_count" "a", oneLabel "_count" "b"] =
        .ok [row, row] ∧
      ∀ group, ¬ ShowsLabel "_count" group row) ∧
    ∃ row, groupRows (Pivot.mk ["v_sum"] [] ["v"] .sum).key
        [oneLabel "v_sum" "a", oneLabel "v_sum" "b"] =
          .ok [("a", [oneLabel "v_sum" "a"]), ("b", [oneLabel "v_sum" "b"])] ∧
      (Pivot.mk ["v_sum"] [] ["v"] .sum).apply [oneLabel "v_sum" "a", oneLabel "v_sum" "b"] =
        .ok [row, row] ∧
      ∀ group, ¬ ShowsLabel "v_sum" group row := by
  refine ⟨⟨_, rfl, rfl, ?_⟩, _, rfl, rfl, ?_⟩
  · rintro group ⟨text, hText, -⟩
    cases hText
  · rintro group ⟨text, hText, -⟩
    cases hText

end TableFlow
