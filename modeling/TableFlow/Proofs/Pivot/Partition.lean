import TableFlow.Proofs.Pivot.Key
import TableFlow.Proofs.Reduction.Extremes
import TableFlow.Proofs.Stage.Partition

/-!
# A pivot partitions the rows

A pivot makes one row of the rows of each key. It reduces the value columns separately, so that any
of them can be told from the rows alone, whatever the other columns are and however often they are
repeated. What is shown under a column to group by is split from the key; it is the text of all rows
of the group if the texts hold no colon.

What is found in the groups adds up to what is found in all rows: numbers are counted once, and
extremes of the groups give the extreme of the whole.

## Main results

* `Pivot.showsReductions_of_summary` and `Pivot.showsLabels_of_summary`: the cells of the row of a
  group.
* `Pivot.apply_conserves`: the rows of a pivot, told from the rows it is applied to.
-/

namespace TableFlow.Pivot

open Binary64 (rank)

variable {pivot : Pivot} {rows group : List Row} {k : String} {row : Row}

/-! ## The row of a group -/

/-- The row shows the reductions of the value columns over the group. -/
def ShowsReductions (pivot : Pivot) (group : List Row) (row : Row) : Prop :=
  ∀ column ∈ pivot.values, ∃ xs, columnNumbers group column = .ok xs ∧
    row.get (pivot.valueName column) = pivot.aggregation.reduction.reduce xs

/-- The row shows the texts that the rows of the group share. -/
def ShowsLabels (pivot : Pivot) (group : List Row) (row : Row) : Prop :=
  ∀ column ∈ pivot.rows, ∃ text, row.get column = .text text ∧
    ∀ member ∈ group, (member.get column).toText = .ok text

theorem valueName_injective (pivot : Pivot) : Function.Injective pivot.valueName := by
  intro column column' h
  have hTexts := congrArg String.toList h
  simp only [valueName, String.toList_append, List.append_assoc] at hTexts
  exact String.toList_injective (List.append_cancel_right hTexts)

theorem showsReductions_of_summary (h : pivot.summary k group = .ok row) :
    pivot.ShowsReductions group row := by
  obtain ⟨values, hValues, h⟩ := bind_eq_ok_iff.1 h
  cases h
  intro column hColumn
  obtain ⟨entry, hEntry, hMade⟩ := exists_value_of_mapM hValues column hColumn
  obtain ⟨xs, hNumbers, hMade⟩ := bind_eq_ok_iff.1 hMade
  cases hMade
  refine ⟨xs, hNumbers, Row.get_ofEntries_append (List.mem_map_of_mem hEntry) ?_⟩
  intro other hOther hName
  obtain ⟨column', -, hMade⟩ := exists_of_mem_mapM hValues other hOther
  obtain ⟨xs', hNumbers', hMade⟩ := bind_eq_ok_iff.1 hMade
  cases hMade
  cases pivot.valueName_injective hName
  cases hNumbers.symm.trans hNumbers'
  rfl

/-- Texts without a colon are kept apart. -/
theorem keptApart_of_notMem {labels : List String} (h : ∀ label ∈ labels, ':' ∉ label.toList) :
    KeptApart labels := by
  refine ⟨fun label hLabel hInfix => ?_, fun label hLabel hLast => ?_⟩
  · exact h label hLabel (hInfix.subset List.mem_cons_self)
  · exact h label (List.mem_of_mem_dropLast hLabel) (List.mem_of_getLast? hLast)

/-- Rows whose texts hold no colon have labels that are kept apart. -/
theorem exists_keptApart (hLabels : ∀ row ∈ rows, HasValue (pivot.labels row))
    (hPlain : ∀ row ∈ rows, ∀ column ∈ pivot.rows, ∀ text, (row.get column).toText = .ok text →
      ':' ∉ text.toList) :
    ∀ row ∈ rows, ∃ labels, pivot.labels row = .ok labels ∧ KeptApart labels := by
  intro row hRow
  obtain ⟨labels, hLabels, -⟩ := hLabels row hRow
  refine ⟨labels, hLabels, keptApart_of_notMem fun label hLabel => ?_⟩
  obtain ⟨column, hColumn, hText⟩ := exists_of_mem_mapM hLabels label hLabel
  exact hPlain row hRow column hColumn label hText

/-- A column to group by is shown with the label of the key, if no reduction replaces it. -/
theorem label_of_summary {labels : List String} {first : Row} (hActive : pivot.isActive)
    (hLabels : pivot.labels first = .ok labels) (hKept : KeptApart labels)
    (h : pivot.summary (keyOfLabels labels) group = .ok row) {column : String}
    (hColumn : column ∈ pivot.rows) (hApart : column ∉ pivot.values.map pivot.valueName) :
    ∃ text, row.get column = .text text ∧ (first.get column).toText = .ok text := by
  obtain ⟨values, hValues, h⟩ := bind_eq_ok_iff.1 h
  cases h
  obtain ⟨text, hText, hCell⟩ := exists_value_of_mapM hLabels column hColumn
  refine ⟨text, ?_, hCell⟩
  have hBack := labelsOfKey_of_labels hActive hLabels hKept
  have hEntries : pivot.labelEntries (keyOfLabels labels) =
      pivot.rows.zip (labels.map Cell.text) := by
    have hLength : (labelsOfKey (keyOfLabels labels)).length = pivot.rows.length := by
      rw [hBack, length_of_mapM hLabels]
    rw [labelEntries_eq hLength, hBack]
  rw [← List.nil_append (_ ++ values)]
  refine Row.get_ofEntries_append ?_ fun entry hEntry hName => ?_
  · rw [List.map_append, map_fst_labelEntries]
    exact List.mem_append_left _ hColumn
  · obtain hLabel | hValue := List.mem_append.1 hEntry
    · rw [hEntries, List.zip_map_right] at hLabel
      obtain ⟨⟨column', label⟩, hMem, rfl⟩ := List.mem_map.1 hLabel
      cases hName
      have hCell' := List.forall₂_zip (forall₂_of_mapM hLabels) hMem
      exact congrArg Cell.text (Except.ok.inj (hCell'.symm.trans hCell))
    · have hNamed := List.mem_map_of_mem (f := Prod.fst) hValue
      rw [map_fst_of_valueEntries hValues, hName] at hNamed
      exact absurd hNamed hApart

/-- Rows that share a key have a text in common in each column to group by. The row of their group
shows it, if no reduction replaces the column. -/
theorem label_of_group (hActive : pivot.isActive)
    (hLabelled : ∀ row ∈ rows, ∃ labels, pivot.labels row = .ok labels ∧ KeptApart labels)
    (hKey : ∃ row ∈ rows, pivot.key row = .ok k)
    (h : pivot.summary k (Summary.group pivot.key rows k) = .ok row) {column : String}
    (hColumn : column ∈ pivot.rows) (hApart : column ∉ pivot.values.map pivot.valueName) :
    ∃ text, row.get column = .text text ∧
      ∀ member ∈ Summary.group pivot.key rows k, (member.get column).toText = .ok text := by
  obtain ⟨first, hFirst, hKey⟩ := hKey
  obtain ⟨labels, hLabels, hKept⟩ := hLabelled first hFirst
  cases (key_of_labels hLabels).symm.trans hKey
  obtain ⟨text, hShown, hText⟩ := label_of_summary hActive hLabels hKept h hColumn hApart
  refine ⟨text, hShown, fun member hMember => ?_⟩
  obtain ⟨hRow, hSameKey⟩ := Summary.mem_group.1 hMember
  have hSame := (key_eq_iff hActive hLabels hKept (hLabelled member hRow)).1 hSameKey
  rw [← (mapM_eq_ok_iff_of_eq_ok hLabels).1 hSame column hColumn]
  exact hText

/-- The row of a group of rows whose texts hold no colon shows these texts. -/
theorem showsLabels_of_summary (hActive : pivot.isActive)
    (hLabelled : ∀ row ∈ rows, ∃ labels, pivot.labels row = .ok labels ∧ KeptApart labels)
    (hApart : ∀ column ∈ pivot.values, pivot.valueName column ∉ pivot.rows)
    (hKey : ∃ row ∈ rows, pivot.key row = .ok k)
    (h : pivot.summary k (Summary.group pivot.key rows k) = .ok row) :
    pivot.ShowsLabels (Summary.group pivot.key rows k) row := by
  intro column hColumn
  refine label_of_group hActive hLabelled hKey h hColumn fun hReplaced => ?_
  obtain ⟨value, hValue, rfl⟩ := List.mem_map.1 hReplaced
  exact hApart value hValue hColumn

/-! ## What is conserved -/

section

variable {texts keys : List String} {summaries : List Row} {column : String}

/-- The numbers in the groups stand at the places of all numbers. -/
theorem columnPlaces_groups {key : Row → Except Fault String} (h : rows.mapM key = .ok texts)
    (column : String) : {place | ∃ k ∈ firstOccurrences texts,
      place ∈ columnPlaces (Summary.group key rows k) column} = columnPlaces rows column := by
  ext place
  constructor
  · rintro ⟨k, -, row, hRow, hPlace⟩
    exact ⟨row, (Summary.mem_group.1 hRow).1, hPlace⟩
  · rintro ⟨row, hRow, hPlace⟩
    obtain ⟨k, hk, hGroup⟩ := List.mem_flatMap.1 ((Summary.perm_groups h).mem_iff.2 hRow)
    exact ⟨k, hk, row, hGroup, hPlace⟩

/-- Where a reduction finds an extreme, the rows show the extremes of the groups. -/
theorem columnPlaces_summaries {members : String → List Row} (IsExtreme : Set Int → Int → Prop)
    (hExtreme : ∀ xs : List Binary64, (∀ x ∈ xs, x.isNaN = false) → ∀ place,
      (pivot.aggregation.reduction.reduce xs).toNumber.map rank = .ok (some place) ↔
        IsExtreme (Reduction.places xs) place)
    (h : List.Forall₂ (fun k row => pivot.ShowsReductions (members k) row) keys summaries)
    (hColumn : column ∈ pivot.values) :
    columnPlaces summaries (pivot.valueName column) =
      {place | ∃ k ∈ keys, IsExtreme (columnPlaces (members k) column) place} := by
  have hShown : ∀ k row, pivot.ShowsReductions (members k) row → ∀ place,
      (row.get (pivot.valueName column)).toNumber.map rank = .ok (some place) ↔
        IsExtreme (columnPlaces (members k) column) place := by
    intro k row hRow place
    obtain ⟨xs, hNumbers, hCell⟩ := hRow column hColumn
    rw [hCell, columnPlaces_eq hNumbers]
    exact hExtreme xs (isNaN_of_columnNumbers hNumbers) place
  ext place
  constructor
  · rintro ⟨row, hRow, hPlace⟩
    obtain ⟨k, hk, hKey⟩ := exists_of_mem_of_forall₂ h row hRow
    exact ⟨k, hk, (hShown k row hKey place).1 hPlace⟩
  · rintro ⟨k, hk, hPlace⟩
    obtain ⟨row, hRow, hKey⟩ := exists_of_mem_of_forall₂ h.flip k hk
    exact ⟨row, hRow, (hShown k row hKey place).2 hPlace⟩

/-- The least numbers shown are the least numbers of all rows. -/
theorem isLeast_columnPlaces_iff (hLeast : pivot.aggregation = .least)
    (hKeys : rows.mapM pivot.key = .ok texts)
    (h : List.Forall₂ (fun k row => pivot.ShowsReductions (Summary.group pivot.key rows k) row)
      (firstOccurrences texts) summaries) (hColumn : column ∈ pivot.values) (place : Int) :
    IsLeast (columnPlaces summaries (pivot.valueName column)) place ↔
      IsLeast (columnPlaces rows column) place := by
  rw [columnPlaces_summaries IsLeast (fun xs hxs place => ?_) h hColumn,
    ← columnPlaces_groups hKeys]
  · refine isLeast_leasts_iff fun k hk hSome => ?_
    obtain ⟨row, -, hRow⟩ := exists_of_mem_of_forall₂ h.flip k hk
    obtain ⟨xs, hNumbers, -⟩ := hRow column hColumn
    exact exists_isLeast_columnPlaces hNumbers hSome
  · rw [hLeast]
    exact Reduction.rank_reduce_least_iff hxs

/-- The greatest numbers shown are the greatest numbers of all rows. -/
theorem isGreatest_columnPlaces_iff (hGreatest : pivot.aggregation = .greatest)
    (hKeys : rows.mapM pivot.key = .ok texts)
    (h : List.Forall₂ (fun k row => pivot.ShowsReductions (Summary.group pivot.key rows k) row)
      (firstOccurrences texts) summaries) (hColumn : column ∈ pivot.values) (place : Int) :
    IsGreatest (columnPlaces summaries (pivot.valueName column)) place ↔
      IsGreatest (columnPlaces rows column) place := by
  rw [columnPlaces_summaries IsGreatest (fun xs hxs place => ?_) h hColumn,
    ← columnPlaces_groups hKeys]
  · refine isGreatest_greatests_iff fun k hk hSome => ?_
    obtain ⟨row, -, hRow⟩ := exists_of_mem_of_forall₂ h.flip k hk
    obtain ⟨xs, hNumbers, -⟩ := hRow column hColumn
    exact exists_isGreatest_columnPlaces hNumbers hSome
  · rw [hGreatest]
    exact Reduction.rank_reduce_greatest_iff hxs

/-- Where a reduction counts, the rows show counts that add up to the count of all numbers. -/
theorem exists_counts_of_showsReductions (hCount : pivot.aggregation = .count)
    (hKeys : rows.mapM pivot.key = .ok texts)
    (h : List.Forall₂ (fun k row => pivot.ShowsReductions (Summary.group pivot.key rows k) row)
      (firstOccurrences texts) summaries) (hColumn : column ∈ pivot.values) :
    ∃ counts : List Nat,
      summaries.map (·.get (pivot.valueName column)) = counts.map (fun n => .int n) ∧
        counts.sum = rows.countP fun row => (row.get column).isNumeric := by
  refine ⟨_, ?_, Summary.sum_countP_groups hKeys _⟩
  rw [List.map_map]
  refine (map_eq_map_of_forall₂ h fun k row hRow => ?_).symm
  obtain ⟨xs, hNumbers, hCell⟩ := hRow column hColumn
  rw [hCell, hCount]
  exact congrArg (fun n : Nat => Cell.int n) (length_of_columnNumbers hNumbers).symm

end

/-- **A pivot partitions the rows and loses no number**, if it is active and whole numbers fit the
format. There is one row for each key, in the order in which the keys occur first. It shows the
reduction of each value column over the rows with that key. Counts add up to the number of rows with
a number, and the least and the greatest number shown are those of all rows. If no text of a column
to group by holds a colon, and no reduction replaces such a column, it shows the text that the rows
of the group share. The columns that are kept with the configuration have no effect. -/
theorem apply_conserves {pivot : Pivot} {rows : List Row} (hActive : pivot.isActive)
    (hFits : ∀ row ∈ rows, row.FitsFormat) :
    (∃ texts keys summaries, rows.mapM pivot.key = .ok texts ∧ ListsNames keys texts ∧
      pivot.apply rows = .ok summaries ∧
      List.Forall₂ (fun k row => pivot.ShowsReductions
        (rows.filter fun row => pivot.key row = .ok k) row) keys summaries ∧
      (pivot.aggregation = .count → ∀ column ∈ pivot.values, ∃ counts : List Nat,
        summaries.map (·.get (pivot.valueName column)) = counts.map (fun n => .int n) ∧
          counts.sum = rows.countP fun row => (row.get column).isNumeric) ∧
      (pivot.aggregation = .least → ∀ column ∈ pivot.values, ∀ place,
        IsLeast (columnPlaces summaries (pivot.valueName column)) place ↔
          IsLeast (columnPlaces rows column) place) ∧
      (pivot.aggregation = .greatest → ∀ column ∈ pivot.values, ∀ place,
        IsGreatest (columnPlaces summaries (pivot.valueName column)) place ↔
          IsGreatest (columnPlaces rows column) place) ∧
      ((∀ row ∈ rows, ∀ column ∈ pivot.rows, ∀ text, (row.get column).toText = .ok text →
          ':' ∉ text.toList) →
        (∀ column ∈ pivot.values, pivot.valueName column ∉ pivot.rows) →
          List.Forall₂ (fun k row => pivot.ShowsLabels
            (rows.filter fun row => pivot.key row = .ok k) row) keys summaries)) ∧
    ∀ columns, { pivot with columns := columns }.apply rows = pivot.apply rows := by
  have hConverts : ∀ row ∈ rows, row.Converts := fun row hRow => (hFits row hRow).converts
  have hLabels : ∀ row ∈ rows, HasValue (pivot.labels row) := fun row hRow =>
    hasValue_mapM fun column _ => (hConverts row hRow column).1
  have hKeys : HasValue (rows.mapM pivot.key) := hasValue_mapM fun row hRow =>
    (hLabels row hRow).bind fun labels _ => .ok trivial
  obtain ⟨texts, hTexts, -⟩ := hKeys
  obtain ⟨summaries, hSummaries, -⟩ := pivot.hasValue_apply hConverts
  have hMade := Summary.forall₂_of_summarizeBy hTexts
    ((apply_of_isActive hActive).symm.trans hSummaries)
  have hReduced := hMade.imp fun k row => showsReductions_of_summary
  refine ⟨⟨texts, firstOccurrences texts, summaries, hTexts, listsNames_firstOccurrences texts,
    hSummaries, hReduced,
    fun hCount column => exists_counts_of_showsReductions hCount hTexts hReduced,
    fun hLeast column => isLeast_columnPlaces_iff hLeast hTexts hReduced,
    fun hGreatest column => isGreatest_columnPlaces_iff hGreatest hTexts hReduced,
    fun hPlain hApart => ?_⟩, fun _ => rfl⟩
  have hKept := exists_keptApart hLabels hPlain
  have hKeyed := (List.forall₂_and_left _ _).2
    ⟨fun k hk => (mem_of_mapM hTexts).1 (mem_firstOccurrences.1 hk), hMade⟩
  exact hKeyed.imp fun k row h => showsLabels_of_summary hActive hKept hApart h.1 h.2

/-- Rows of two groups that the texts of numbers and booleans make up, one of them without a number
in one column. -/
def mixedGroups : List Row := [
  Row.ofEntries [("k", .int 1), ("v", .float .zero), ("w", .text " 2 ")],
  Row.ofEntries [("k", .bool true), ("v", .int (-3)), ("w", .text "x")],
  Row.ofEntries [("k", .text "1"), ("v", .float (.finite true 0 Binary64.isMagnitude_zero))],
  Row.ofEntries [("v", .text "-4"), ("k", .text "true"), ("w", .float .nan)],
  Row.ofEntries [("k", .float (Binary64.nearestInt 1)), ("v", .float (.infinite false))]]

/-- A pivot with repeated columns. -/
def repeatedColumns (aggregation : PivotOperation) : Pivot :=
  ⟨["k", "g", "k"], ["v"], ["v", "w", "v"], aggregation⟩

theorem apply_conserves_mixedGroups :
    (∃ keys summaries,
      ListsNames keys ["1::::1", "true::::true", "1::::1", "true::::true", "1::::1"] ∧
      (repeatedColumns .least).apply mixedGroups = .ok summaries ∧
      List.Forall₂ (fun k row => (repeatedColumns .least).ShowsReductions
        (mixedGroups.filter fun row => (repeatedColumns .least).key row = .ok k) row)
        keys summaries ∧
      (∀ place, IsLeast (columnPlaces summaries "v_min") place ↔
        IsLeast (columnPlaces mixedGroups "v") place) ∧
      List.Forall₂ (fun k row => (repeatedColumns .least).ShowsLabels
        (mixedGroups.filter fun row => (repeatedColumns .least).key row = .ok k) row)
        keys summaries) ∧
    ∃ summaries, ∃ counts : List Nat, (repeatedColumns .count).apply mixedGroups = .ok summaries ∧
      summaries.map (·.get "w_count") = counts.map (fun n => .int n) ∧ counts.sum = 1 := by
  have hFits : ∀ row ∈ mixedGroups, row.FitsFormat := by decide +kernel
  constructor
  · obtain ⟨⟨texts, keys, summaries, hTexts, hKeys, hSummaries, hReduced, -, hLeast, -, hLabels⟩,
        -⟩ := @apply_conserves (repeatedColumns .least) mixedGroups rfl hFits
    have hEach : mixedGroups.mapM (repeatedColumns .least).key =
        .ok ["1::::1", "true::::true", "1::::1", "true::::true", "1::::1"] := by
      decide +kernel
    have hPlain : ∀ row ∈ mixedGroups, ∀ column ∈ ["k", "g", "k"],
        Succeeds (row.get column).toText fun text => ':' ∉ text.toList := by
      decide +kernel
    cases hTexts.symm.trans hEach
    refine ⟨keys, summaries, hKeys, hSummaries, hReduced, hLeast rfl "v" (by decide), hLabels ?_ ?_⟩
    · intro row hRow column hColumn text hText
      obtain ⟨text', hText', hNone⟩ := hPlain row hRow column hColumn
      cases hText.symm.trans hText'
      exact hNone
    · decide
  · obtain ⟨⟨-, -, summaries, -, -, hSummaries, -, hCount, -⟩, -⟩ :=
      @apply_conserves (repeatedColumns .count) mixedGroups rfl hFits
    obtain ⟨counts, hCells, hSum⟩ := hCount rfl "w" (by decide)
    have hOne : mixedGroups.countP (fun row => (row.get "w").isNumeric) = 1 := by decide +kernel
    exact ⟨summaries, counts, hSummaries, hCells, hSum.trans hOne⟩

end TableFlow.Pivot
