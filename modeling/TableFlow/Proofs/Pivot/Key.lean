import Mathlib.Data.List.Nodup
import TableFlow.Pivot
import TableFlow.Proofs.Grouping
import TableFlow.Proofs.Text.Split

/-!
# Keys of a pivot

The key of a row joins its labels, and the labels that are shown for a group are split from the key.
So rows of different labels can share a key, and labels can be shown that no row has. Both are ruled
out if no label holds the separator and no label but the last one ends with a colon: such a colon
and the separator behind it make up an earlier occurrence of the separator.

## Main results

* `labelsOfKey_keyOfLabels_iff`: the condition is exact for getting the labels back.
* `key_identifies`: under the condition, a pivot groups by labels and shows those of each group.
-/

namespace TableFlow.Pivot

/-- Labels that their key keeps apart. The last label may end with a colon, and every label may
begin with one. -/
def KeptApart (labels : List String) : Prop :=
  (∀ label ∈ labels, ¬ separator <:+: label.toList) ∧
    ∀ label ∈ labels.dropLast, label.toList.getLast? ≠ some ':'

instance decidableKeptApart (labels : List String) : Decidable (KeptApart labels) :=
  inferInstanceAs (Decidable (_ ∧ _))

theorem separator_ne_nil : separator ≠ [] := List.cons_ne_nil _ _

/-! ## Labels and keys -/

/-- The separator is put together early only by a colon at the end of a label. -/
theorem separator_infix_append_iff (piece : List Char) :
    separator <:+: piece ++ separator.dropLast ↔
      separator <:+: piece ∨ piece.getLast? = some ':' := by
  have hSuffix : separator <:+ piece ++ [':'] ↔ piece.getLast? = some ':' := by
    rw [← List.singleton_suffix_iff_getLast?_eq_some]
    show [':'] ++ [':'] <:+ piece ++ [':'] ↔ _
    rw [List.suffix_append_inj_of_length_eq rfl, and_iff_left rfl]
  show separator <:+: piece ++ [':'] ↔ _
  rw [List.infix_concat_iff, hSuffix, or_comm]

theorem keptApart_cons {label : String} {labels : List String} (h : labels ≠ []) :
    KeptApart (label :: labels) ↔
      (¬ separator <:+: label.toList ∧ label.toList.getLast? ≠ some ':') ∧ KeptApart labels := by
  unfold KeptApart
  rw [List.dropLast_cons_of_ne_nil h, List.forall_mem_cons, List.forall_mem_cons]
  exact and_and_and_comm

theorem separable_iff {labels : List String} (hNonempty : labels ≠ []) :
    Text.Separable separator (labels.map String.toList) ↔ KeptApart labels := by
  induction labels with
  | nil => exact absurd rfl hNonempty
  | cons label labels ih =>
      by_cases hLast : labels = []
      · subst hLast
        simp [Text.Separable, KeptApart]
      · rw [List.map_cons, Text.separable_cons (by simpa using hLast), ih hLast,
          keptApart_cons hLast, separator_infix_append_iff, not_or]

/-- The labels of a key determine it. -/
theorem keyOfLabels_labelsOfKey (key : String) : keyOfLabels (labelsOfKey key) = key := by
  have hPieces : (labelsOfKey key).map String.toList = Text.splitOn separator key.toList := by
    simp [labelsOfKey]
  rw [keyOfLabels, hPieces, Text.join_splitOn separator_ne_nil, String.ofList_toList]

/-- The labels are what their key is split into, exactly if they are kept apart. -/
theorem labelsOfKey_keyOfLabels_iff {labels : List String} (hNonempty : labels ≠ []) :
    labelsOfKey (keyOfLabels labels) = labels ↔ KeptApart labels := by
  have hLabels : labels = (labels.map String.toList).map String.ofList := by simp
  rw [← separable_iff hNonempty, ← Text.splitOn_join_eq_iff separator_ne_nil]
  conv_lhs => rhs; rw [hLabels]
  rw [labelsOfKey, keyOfLabels, String.toList_ofList,
    List.map_inj_right fun _ _ => String.ofList_injective]

/-! ## Rows -/

variable {pivot : Pivot} {row row' : Row} {labels labels' : List String}

theorem labels_ne_nil (hActive : pivot.isActive) (h : pivot.labels row = .ok labels) :
    labels ≠ [] := by
  intro hEmpty
  have hLength := length_of_mapM h
  rw [hEmpty] at hLength
  have hNone : pivot.rows = [] := List.eq_nil_of_length_eq_zero hLength.symm
  simp [isActive, hNone] at hActive

theorem key_of_labels (h : pivot.labels row = .ok labels) :
    pivot.key row = .ok (keyOfLabels labels) := by
  rw [Pivot.key, h]
  rfl

theorem labelsOfKey_of_labels (hActive : pivot.isActive) (h : pivot.labels row = .ok labels)
    (hKept : KeptApart labels) : labelsOfKey (keyOfLabels labels) = labels :=
  (labelsOfKey_keyOfLabels_iff (labels_ne_nil hActive h)).2 hKept

/-- The rows that share a key with a row are those with its labels, if labels are kept apart. -/
theorem key_eq_iff (hActive : pivot.isActive) (h : pivot.labels row = .ok labels)
    (hKept : KeptApart labels)
    (hKept' : ∃ labels', pivot.labels row' = .ok labels' ∧ KeptApart labels') :
    pivot.key row' = .ok (keyOfLabels labels) ↔ pivot.labels row' = .ok labels := by
  refine ⟨fun hKey => ?_, key_of_labels⟩
  obtain ⟨labels', hLabels', hKept'⟩ := hKept'
  have hSame : keyOfLabels labels' = keyOfLabels labels :=
    Except.ok.inj ((key_of_labels hLabels').symm.trans hKey)
  rw [← labelsOfKey_of_labels hActive h hKept, ← hSame,
    labelsOfKey_of_labels hActive hLabels' hKept', hLabels']

/-- With a label for each column, every column is shown with its own one. -/
theorem labelEntries_eq {key : String} (h : (labelsOfKey key).length = pivot.rows.length) :
    pivot.labelEntries key = pivot.rows.zip ((labelsOfKey key).map Cell.text) := by
  refine List.ext_getElem (by simp [labelEntries, h]) fun i hi _ => ?_
  have hLabel : i < (labelsOfKey key).length := by simpa [labelEntries, h] using hi
  simp [labelEntries, List.getElem?_eq_getElem hLabel]

/-- The row of the group of some labels: the labels, and the reductions over the rows with them. -/
def labelled (pivot : Pivot) (rows : List Row) (labels : List String) : Except Fault Row := do
  let values ← pivot.valueEntries (rows.filter fun row => pivot.labels row = .ok labels)
  .ok (Row.ofEntries (pivot.rows.zip (labels.map Cell.text) ++ values))

/-- The row that is shown for a key is the one of its labels, if labels are kept apart. -/
theorem summary_eq_labelled {rows : List Row} (hActive : pivot.isActive)
    (hApart : ∀ row ∈ rows, ∃ labels, pivot.labels row = .ok labels ∧ KeptApart labels)
    {key : String} (hKey : ∃ row ∈ rows, pivot.key row = .ok key) :
    pivot.summary key (rows.filter fun row => pivot.key row = .ok key) =
      pivot.labelled rows (labelsOfKey key) := by
  obtain ⟨row, hRow, hKey⟩ := hKey
  obtain ⟨labels, hLabels, hKept⟩ := hApart row hRow
  cases (key_of_labels hLabels).symm.trans hKey
  have hBack := labelsOfKey_of_labels hActive hLabels hKept
  have hGroup : rows.filter (fun row => pivot.key row = .ok (keyOfLabels labels)) =
      rows.filter fun row => pivot.labels row = .ok labels :=
    List.filter_congr fun row' hRow' => decide_eq_decide.2
      (key_eq_iff hActive hLabels hKept (hApart row' hRow'))
  have hLength : (labelsOfKey (keyOfLabels labels)).length = pivot.rows.length := by
    rw [hBack, length_of_mapM hLabels]
  rw [summary, labelled, labelEntries_eq hLength, hGroup, hBack]

/-- A pivot shows one row for each combination of labels, if labels are kept apart. -/
theorem exists_apply_eq {rows : List Row} (hActive : pivot.isActive)
    (hApart : ∀ row ∈ rows, ∃ labels, pivot.labels row = .ok labels ∧ KeptApart labels) :
    ∃ combinations : List (List String), combinations.Nodup ∧
      (∀ labels, labels ∈ combinations ↔ ∃ row ∈ rows, pivot.labels row = .ok labels) ∧
      pivot.apply rows = combinations.mapM (pivot.labelled rows) := by
  have hBack : ∀ row ∈ rows, ∀ labels, pivot.labels row = .ok labels →
      labelsOfKey (keyOfLabels labels) = labels := by
    intro row hRow labels hLabels
    obtain ⟨labels', hLabels', hKept⟩ := hApart row hRow
    cases hLabels.symm.trans hLabels'
    exact labelsOfKey_of_labels hActive hLabels hKept
  have hKeyed : ∀ row ∈ rows, HasValue (pivot.key row) := by
    intro row hRow
    obtain ⟨labels, hLabels, -⟩ := hApart row hRow
    exact ⟨_, key_of_labels hLabels, trivial⟩
  obtain ⟨keys, hNodup, hKeys, hGroups⟩ := exists_groupRows_eq hKeyed
  have hInjective : Function.Injective labelsOfKey :=
    Function.LeftInverse.injective keyOfLabels_labelsOfKey
  refine ⟨keys.map labelsOfKey, hNodup.map hInjective, fun labels => ?_, ?_⟩
  · constructor
    · intro hMem
      obtain ⟨key, hKey, rfl⟩ := List.mem_map.1 hMem
      obtain ⟨row, hRow, hRowKey⟩ := (hKeys key).1 hKey
      obtain ⟨labels, hLabels, -⟩ := hApart row hRow
      cases (key_of_labels hLabels).symm.trans hRowKey
      exact ⟨row, hRow, by rw [hBack row hRow labels hLabels, hLabels]⟩
    · rintro ⟨row, hRow, hLabels⟩
      exact List.mem_map.2
        ⟨keyOfLabels labels, (hKeys _).2 ⟨row, hRow, key_of_labels hLabels⟩,
          hBack row hRow labels hLabels⟩
  · rw [apply, if_pos hActive, hGroups]
    show (keys.map _).mapM _ = _
    rw [List.mapM_map, List.mapM_map]
    exact mapM_congr_left fun key hKey =>
      summary_eq_labelled hActive hApart ((hKeys key).1 hKey)

/-- **Keys stand for combinations of labels, if they keep them apart.** In an active pivot every row
with labels has a key, which is split into these labels exactly if they are kept apart. If those of
two rows are, then the rows share a key if and only if they agree on the texts of all columns. If
those of all rows are, then the pivot shows one row for each combination of labels: it holds these
labels, and reduces the rows that have them. -/
theorem key_identifies (hActive : pivot.isActive) :
    (∀ row labels, pivot.labels row = .ok labels → ∃ key, pivot.key row = .ok key ∧
      (labelsOfKey key = labels ↔ KeptApart labels)) ∧
    (∀ row row' labels labels', pivot.labels row = .ok labels → pivot.labels row' = .ok labels' →
      KeptApart labels → KeptApart labels' →
        (pivot.key row = pivot.key row' ↔
          ∀ column ∈ pivot.rows, (row.get column).toText = (row'.get column).toText)) ∧
    ∀ rows, (∀ row ∈ rows, ∃ labels, pivot.labels row = .ok labels ∧ KeptApart labels) →
      ∃ combinations : List (List String), combinations.Nodup ∧
        (∀ labels, labels ∈ combinations ↔ ∃ row ∈ rows, pivot.labels row = .ok labels) ∧
        pivot.apply rows = combinations.mapM (pivot.labelled rows) := by
  refine ⟨fun row labels hLabels => ?_, fun row row' labels labels' hLabels hLabels' hKept hKept' =>
    ?_, fun rows => exists_apply_eq hActive⟩
  · exact ⟨_, key_of_labels hLabels, labelsOfKey_keyOfLabels_iff (labels_ne_nil hActive hLabels)⟩
  · rw [key_of_labels hLabels, eq_comm, key_eq_iff hActive hLabels hKept ⟨_, hLabels', hKept'⟩]
    exact mapM_eq_ok_iff_of_eq_ok hLabels

/-- A pivot by two columns. -/
def byTwo : Pivot := ⟨["x", "y"], [], ["v"], .sum⟩

/-- A row with two labels and a number. -/
def labelledRow (x y : String) (v : Int) : Row :=
  Row.ofEntries [("x", .text x), ("y", .text y), ("v", .int v)]

/-- Rows with labels that are empty, begin with a colon, or end with one in the last column. -/
def colonRows : List Row := [
  labelledRow ":a" "b:" 1, labelledRow "" ":ab:" 2, labelledRow ":a" "b:" 4]

theorem key_identifies_colonRows :
    byTwo.key (labelledRow ":a" "b:" 1) ≠ byTwo.key (labelledRow "" ":ab:" 2) ∧
      HasValue (byTwo.apply colonRows) ∧
      ∃ combinations : List (List String), combinations.Nodup ∧
        (∀ labels, labels ∈ combinations ↔ labels = [":a", "b:"] ∨ labels = ["", ":ab:"]) ∧
        byTwo.apply colonRows = combinations.mapM (byTwo.labelled colonRows) := by
  have hLabels (x y : String) (v : Int) : byTwo.labels (labelledRow x y v) = .ok [x, y] := rfl
  have hKept : KeptApart [":a", "b:"] ∧ KeptApart ["", ":ab:"] := by decide +kernel
  obtain ⟨-, hSame, hApply⟩ := @key_identifies byTwo rfl
  refine ⟨fun hKey => ?_, by decide +kernel, ?_⟩
  · have hTexts := hSame _ _ _ _ (hLabels ":a" "b:" 1) (hLabels "" ":ab:" 2) hKept.1 hKept.2
    exact absurd (hTexts.1 hKey "x" (by decide)) (by decide +kernel)
  · obtain ⟨combinations, hNodup, hMem, hRows⟩ := hApply colonRows (by grind [colonRows])
    exact ⟨combinations, hNodup, by grind [colonRows], hRows⟩

/-- Labels without the separator can share a key, which is split into the labels of one row only. -/
theorem exists_merged_labels :
    (∀ label ∈ ["a:", "b", "a", ":b"], ¬ separator <:+: label.toList) ∧
      byTwo.key (labelledRow "a:" "b" 1) = byTwo.key (labelledRow "a" ":b" 2) ∧
      labelsOfKey (keyOfLabels ["a:", "b"]) = ["a", ":b"] := by
  decide +kernel

end TableFlow.Pivot
