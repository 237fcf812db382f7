import TableFlow.Proofs.Grouping
import TableFlow.Row

/-!
# The columns of a row that is put together

A row is put together by setting one cell after the other. A name that is there already stays where
it is, so the columns of the row are the names in the order in which they occur first. Its cell is
replaced, so the cell under a name is the one that was set last.

## Main results

* `Row.columns_ofEntries` and `Row.columns_set_of_eq`: the columns of a row that is put together.
* `Row.get?_ofEntries` and `Row.entries_ofEntries`: its cells.
* `columnsOf_eq`: rows that all have the same columns make a table with these columns.
-/

namespace TableFlow

/-! ## First occurrences of appended names -/

theorem firstOccurrences_eq_self {names : List String} (h : names.Nodup) :
    firstOccurrences names = names := by
  induction names using List.reverseRecOn with
  | nil => rfl
  | append_singleton names last ih =>
      obtain ⟨hNames, -, hApart⟩ := List.nodup_append.1 h
      have hNew : last ∉ names := fun hMem => hApart last hMem last (by simp) rfl
      rw [firstOccurrences_concat, ih hNames, if_neg hNew]

/-- Names that are repeated in front add nothing. -/
theorem firstOccurrences_append_left (names more : List String) :
    firstOccurrences (firstOccurrences names ++ more) = firstOccurrences (names ++ more) := by
  induction more using List.reverseRecOn with
  | nil =>
      rw [List.append_nil, List.append_nil]
      exact firstOccurrences_eq_self (nodup_firstOccurrences names)
  | append_singleton more last ih =>
      rw [← List.append_assoc, ← List.append_assoc, firstOccurrences_concat,
        firstOccurrences_concat, ih]

/-- Names that are repeated behind add nothing. -/
theorem firstOccurrences_append_of_subset {names more : List String} (h : more ⊆ names) :
    firstOccurrences (names ++ more) = firstOccurrences names := by
  induction more using List.reverseRecOn with
  | nil => rw [List.append_nil]
  | append_singleton more last ih =>
      have hMore : more ⊆ names := fun name hName => h (List.mem_append_left _ hName)
      have hLast : last ∈ firstOccurrences names := mem_firstOccurrences.2 (h (by simp))
      rw [← List.append_assoc, firstOccurrences_concat, ih hMore, if_pos hLast]

/-! ## Rows -/

/-- An entry of a new name goes to the end. -/
theorem setEntry_of_notMem {α : Type} {entries : List (String × α)} {key : String} (value : α)
    (h : key ∉ entries.map Prod.fst) : setEntry entries key value = entries ++ [(key, value)] := by
  induction entries with
  | nil => rfl
  | cons entry entries ih =>
      rw [List.map_cons, List.mem_cons, not_or] at h
      rw [setEntry, if_neg (Ne.symm h.1), ih h.2]
      rfl

namespace Row

theorem nodup_columns (row : Row) : row.columns.Nodup := row.nodup

theorem columns_set_of_eq {row : Row} {names : List String}
    (h : row.columns = firstOccurrences names) (column : String) (cell : Cell) :
    (row.set column cell).columns = firstOccurrences (names ++ [column]) := by
  rw [columns_set, firstOccurrences_concat, h]

theorem ofEntries_concat (entries : List (String × Cell)) (last : String × Cell) :
    ofEntries (entries ++ [last]) = (ofEntries entries).set last.1 last.2 := by
  simp only [ofEntries, List.foldl_append, List.foldl_cons, List.foldl_nil]

/-- The columns of a row that is made of entries: the names of the entries. -/
theorem columns_ofEntries (entries : List (String × Cell)) :
    (ofEntries entries).columns = firstOccurrences (entries.map Prod.fst) := by
  induction entries using List.reverseRecOn with
  | nil => rfl
  | append_singleton entries last ih =>
      rw [ofEntries_concat, List.map_append, List.map_singleton]
      exact columns_set_of_eq ih last.1 last.2

/-- The cell under a name in a row that is made of entries: the one of the last entry. -/
theorem get?_ofEntries (entries : List (String × Cell)) (name : String) :
    (ofEntries entries).get? name = entries.reverse.lookup name := by
  induction entries using List.reverseRecOn with
  | nil => rfl
  | append_singleton entries last ih =>
      obtain ⟨other, cell⟩ := last
      rw [ofEntries_concat, List.reverse_concat, List.lookup_cons]
      split
      · next hSame => rw [eq_of_beq hSame, get?_set_self]
      · next hOther => rw [get?_set_of_ne _ _ (ne_of_beq_false hOther), ih]

/-- Entries of different names are the entries of their row. -/
theorem entries_ofEntries {entries : List (String × Cell)} (h : (entries.map Prod.fst).Nodup) :
    (ofEntries entries).entries = entries := by
  induction entries using List.reverseRecOn with
  | nil => rfl
  | append_singleton entries last ih =>
      rw [List.map_append, List.map_singleton] at h
      obtain ⟨hEntries, -, hApart⟩ := List.nodup_append.1 h
      have hNew : last.1 ∉ entries.map Prod.fst := fun hMem => hApart _ hMem _ (by simp) rfl
      rw [ofEntries_concat]
      show setEntry (ofEntries entries).entries last.1 last.2 = _
      rw [ih hEntries, setEntry_of_notMem _ hNew]

/-- Every entry of a row is the cell under its name. -/
theorem get?_of_mem {row : Row} {name : String} {cell : Cell} (h : (name, cell) ∈ row.entries) :
    row.get? name = some cell := by
  obtain ⟨front, back, hSplit⟩ := List.append_of_mem h
  have hNodup := row.nodup
  rw [hSplit, List.map_append, List.map_cons] at hNodup
  rw [get?, List.lookup_eq_some_iff]
  refine ⟨front, back, hSplit, fun entry hEntry => bne_iff_ne.2 fun hSame => ?_⟩
  exact (List.nodup_append.1 hNodup).2.2 _ (List.mem_map_of_mem hEntry) name (by simp) hSame.symm

/-- Entries that come last and agree under a name determine the cell under that name. -/
theorem get_ofEntries_append {front back : List (String × Cell)} {name : String} {cell : Cell}
    (hSome : name ∈ back.map Prod.fst) (hOne : ∀ entry ∈ back, entry.1 = name → entry.2 = cell) :
    (ofEntries (front ++ back)).get name = cell := by
  obtain ⟨entry, hEntry, rfl⟩ := List.mem_map.1 hSome
  have hCell : back.reverse.lookup entry.1 = some cell := by
    cases hFound : back.reverse.lookup entry.1 with
    | none =>
        have hOthers := List.lookup_eq_none_iff.1 hFound entry (List.mem_reverse.2 hEntry)
        exact absurd rfl (bne_iff_ne.1 hOthers)
    | some found =>
        obtain ⟨before, after, hSplit, -⟩ := List.lookup_eq_some_iff.1 hFound
        have hMem : (entry.1, found) ∈ back.reverse := by
          rw [hSplit]
          simp
        exact congrArg some (hOne _ (List.mem_reverse.1 hMem) rfl)
  rw [get, get?_ofEntries, List.reverse_append, List.lookup_append, hCell]
  rfl

end Row

/-! ## Tables -/

theorem nodup_columnsOf (rows : List Row) : (columnsOf rows).Nodup := nodup_firstOccurrences _

theorem mem_columnsOf {rows : List Row} {name : String} :
    name ∈ columnsOf rows ↔ ∃ row ∈ rows, name ∈ row.columns := by
  rw [columnsOf, mem_firstOccurrences, List.mem_flatMap]

/-- The columns of rows that all have the same columns. -/
theorem columnsOf_eq {rows : List Row} {columns : List String} (hNonempty : rows ≠ [])
    (h : ∀ row ∈ rows, row.columns = columns) : columnsOf rows = columns := by
  obtain ⟨first, rest, rfl⟩ := List.exists_cons_of_ne_nil hNonempty
  obtain ⟨hFirst, hRest⟩ := List.forall_mem_cons.1 h
  have hSubset : rest.flatMap Row.columns ⊆ first.columns := by
    intro name hName
    obtain ⟨row, hRow, hName⟩ := List.mem_flatMap.1 hName
    rwa [hFirst, ← hRest row hRow]
  rw [columnsOf, List.flatMap_cons, firstOccurrences_append_of_subset hSubset,
    firstOccurrences_eq_self first.nodup_columns, hFirst]

end TableFlow
