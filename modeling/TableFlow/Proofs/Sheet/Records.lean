import TableFlow.Proofs.Row.Columns
import TableFlow.Proofs.Sheet.Names

/-!
# What is read of a sheet

The records of a sheet hold the values of its rows under the names of their columns. No value
replaces another one, since the names of the columns differ. But a header ends with its last cell
that has a value, and no column behind it has a name: what stands there is in no record, and a row
that has values only there gives no record.

## Main results

* `entries_record`: the entries of a record.
* `holds_record`: a record holds the values of a row that stand in named columns.
* `read_keeps_named`: the records of a sheet, and when nothing is lost.
-/

namespace TableFlow.Sheet

/-- The number of values of a row. -/
def valueCount (cells : List Cell) : Nat := cells.countP fun cell => !cell.isMissing

/-- The record has each value of a row under the name of its own column, and nothing else. -/
structure Holds (names : List String) (cells : List Cell) (record : Row) : Prop where
  value : ∀ (i : Nat) cell, cells[i]? = some cell → cell.isMissing = false →
    ∃ name, names[i]? = some name ∧ record.get? name = some cell
  length : record.entries.length = valueCount cells

/-- There is a record for each row that has a value, in order, and the values are in the records. -/
def KeepsValues (names : List String) (body : List (List Cell)) (records : List Row) : Prop :=
  List.Forall₂ (Holds names) (body.filter fun cells => 0 < valueCount cells) records

/-! ## Records -/

theorem map_snd_zip_eq_take {α β : Type} (xs : List α) (ys : List β) :
    (xs.zip ys).map Prod.snd = ys.take xs.length := by
  rw [List.zip_eq_zip_take_min, List.map_snd_zip (by simp)]
  simp

theorem map_fst_zip_sublist {α β : Type} (xs : List α) (ys : List β) :
    ((xs.zip ys).map Prod.fst).Sublist xs := by
  rw [List.zip_eq_zip_take_min, List.map_fst_zip (by simp)]
  exact List.take_sublist _ _

section

variable {names : List String} (hNames : names.Nodup) (cells : List Cell)

include hNames

/-- The entries of a record: the named cells that have a value. -/
theorem entries_record :
    (record names cells).entries = (names.zip cells).filter fun (_, cell) => !cell.isMissing := by
  refine Row.entries_ofEntries (hNames.sublist ?_)
  exact (List.filter_sublist.map Prod.fst).trans (map_fst_zip_sublist names cells)

/-- A record holds the values of a row that stand in named columns. -/
theorem holds_record : Holds names (cells.take names.length) (record names cells) where
  value i cell hCell hValue := by
    obtain ⟨hNamed, hCell⟩ : i < names.length ∧ cells[i]? = some cell := by
      simpa [List.getElem?_take] using hCell
    have hName := List.getElem?_eq_getElem hNamed
    refine ⟨names[i], hName, Row.get?_of_mem ?_⟩
    rw [entries_record hNames, List.mem_filter]
    refine ⟨List.mem_of_getElem? (i := i) ?_, by simp [hValue]⟩
    simp [List.getElem?_zip_eq_some, hName, hCell]
  length := by
    rw [entries_record hNames, ← List.countP_eq_length_filter, valueCount,
      ← map_snd_zip_eq_take, List.countP_map]
    rfl

theorem isEmpty_entries_record : (!(record names cells).entries.isEmpty) =
    decide (0 < valueCount (cells.take names.length)) := by
  rw [← (holds_record hNames cells).length]
  cases (record names cells).entries <;> rfl

/-- The records of some rows hold their values in named columns. -/
theorem keepsValues_records (body : List (List Cell)) :
    KeepsValues names (body.map (·.take names.length))
      ((body.map (record names)).filter fun row => !row.entries.isEmpty) := by
  rw [KeepsValues, List.filter_map, List.filter_map, List.forall₂_map_left_iff,
    List.forall₂_map_right_iff]
  have hSame : body.filter ((fun row : Row => !row.entries.isEmpty) ∘ record names) =
      body.filter ((fun cells => decide (0 < valueCount cells)) ∘ (·.take names.length)) :=
    List.filter_congr fun cells _ => isEmpty_entries_record hNames cells
  rw [hSame]
  exact List.forall₂_same.2 fun cells _ => holds_record hNames cells

end

/-! ## Columns without a name -/

section

variable {names : List String} {body : List (List Cell)} {records : List Row}

/-- Where no column without a name has a value, a row has the values of the named columns. -/
theorem valueCount_take {cells : List Cell} {width : Nat}
    (h : ∀ cell ∈ cells.drop width, cell.isMissing) :
    valueCount (cells.take width) = valueCount cells := by
  have hNone : (cells.drop width).countP (fun cell => !cell.isMissing) = 0 :=
    List.countP_eq_zero.2 fun cell hCell => by simp [h cell hCell]
  conv_rhs => rw [← List.take_append_drop width cells, valueCount, List.countP_append, hNone]
  rfl

theorem Holds.of_take {cells : List Cell} {record : Row}
    (h : ∀ cell ∈ cells.drop names.length, cell.isMissing)
    (hHolds : Holds names (cells.take names.length) record) : Holds names cells record where
  value i cell hCell hValue := by
    refine hHolds.value i cell ?_ hValue
    rw [List.getElem?_take]
    split
    · exact hCell
    · next hUnnamed =>
      have hMember : cell ∈ cells.drop names.length := by
        refine List.mem_of_getElem? (i := i - names.length) ?_
        rw [List.getElem?_drop, Nat.add_sub_cancel' (Nat.le_of_not_lt hUnnamed), hCell]
      rw [h cell hMember] at hValue
      cases hValue
  length := hHolds.length.trans (valueCount_take h)

/-- Records of the values in named columns keep all values, if and only if all values stand in named
columns. -/
theorem keepsValues_iff (h : KeepsValues names (body.map (·.take names.length)) records) :
    KeepsValues names body records ↔
      ∀ cells ∈ body, ∀ cell ∈ cells.drop names.length, cell.isMissing := by
  constructor
  · intro hKept cells hCells cell hCell
    by_contra hValue
    rw [Bool.not_eq_true] at hValue
    have hSome : 0 < valueCount cells :=
      List.countP_pos_iff.2 ⟨cell, List.mem_of_mem_drop hCell, by simp [hValue]⟩
    obtain ⟨record, -, hHolds⟩ := exists_of_mem_of_forall₂ hKept.flip cells
      (List.mem_filter.2 ⟨hCells, decide_eq_true hSome⟩)
    obtain ⟨i, hi⟩ := List.mem_iff_getElem?.1 hCell
    rw [List.getElem?_drop] at hi
    obtain ⟨name, hName, -⟩ := hHolds.value _ cell hi hValue
    have hNamed := (List.getElem?_eq_some_iff.1 hName).1
    omega
  · intro hNone
    rw [KeepsValues, List.filter_map, List.forall₂_map_left_iff] at h
    have hSame : body.filter ((fun cells => decide (0 < valueCount cells)) ∘
        (·.take names.length)) = body.filter fun cells => 0 < valueCount cells := by
      refine List.filter_congr fun cells hCells => ?_
      simp only [Function.comp_apply, valueCount_take (hNone cells hCells)]
    rw [hSame] at h
    have hRows := (List.forall₂_and_left _ _).2 ⟨fun cells hCells =>
      hNone cells (List.mem_filter.1 hCells).1, h⟩
    exact hRows.imp fun cells record hRow => hRow.2.of_take hRow.1

end

theorem read_eq {grid : Grid} {header : List Cell} {body : List (List Cell)} {names : List String}
    (hValues : grid.values = header :: body) (hNames : headerNames header = .ok names) :
    read grid = .ok (names, (body.map (record names)).filter fun row => !row.entries.isEmpty) := by
  rw [read, hValues]
  show (headerNames header >>= fun names => _) = _
  rw [hNames]
  rfl

/-- **A sheet is read without loss up to the last column with a name**, if the cells of its header
have texts. The columns are those up to the last cell of the header that has a value, and they have
different names. There is one record for each later row that has a value in these columns, in the
order of the rows, and it has each of these values under the name of its own column and nothing
else. All values of the sheet are kept in this way if and only if none stands behind these
columns. -/
theorem read_keeps_named {grid : Grid} {header : List Cell} {body : List (List Cell)}
    (hValues : grid.values = header :: body) (hTexts : ∀ cell ∈ header, HasValue cell.toText) :
    ∃ names records, read grid = .ok (names, records) ∧ names.Nodup ∧
      names.length = (dropMissingEnd header).length ∧
      KeepsValues names (body.map (·.take names.length)) records ∧
      (KeepsValues names body records ↔
        ∀ cells ∈ body, ∀ cell ∈ cells.drop names.length, cell.isMissing) := by
  obtain ⟨names, hNames, hNodup, hLength⟩ := succeeds_headerNames hTexts
  have hKept := keepsValues_records hNodup body
  exact ⟨names, _, read_eq hValues hNames, hNodup, hLength, hKept, keepsValues_iff hKept⟩

/-- A sheet with a column without a name, a name that is repeated, a number as a name, and rows
without values, one of them with an empty text. -/
def repeatedNames : Grid := ⟨"Sheet", [
  [.text "name", .missing, .text "name", .int 2024, .missing],
  [.text "a", .int 1, .text "b", .bool false, .missing], [], [.missing, .text ""],
  [.missing, .int 2]]⟩

theorem read_keeps_named_repeatedNames :
    ∃ names records, read repeatedNames = .ok (names, records) ∧ names.Nodup ∧ names.length = 4 ∧
      KeepsValues names [[.text "a", .int 1, .text "b", .bool false, .missing], [],
        [.missing, .missing], [.missing, .int 2]] records := by
  have hTexts : ∀ cell ∈ [.text "name", .missing, .text "name", Cell.int 2024, .missing],
      HasValue cell.toText := by
    decide +kernel
  obtain ⟨names, records, hRead, hNodup, hLength, -, hKept⟩ :=
    @read_keeps_named repeatedNames _ _ rfl hTexts
  have hWidth : names.length = 4 := hLength
  refine ⟨names, records, hRead, hNodup, hWidth, hKept.2 ?_⟩
  rw [hWidth]
  simp [Cell.isMissing, valueOf]

/-- A sheet with values behind its only name. -/
def valuesBehind : Grid := ⟨"Sheet", [[.text "a"], [.text "x", .int 1], [.missing, .int 2]]⟩

/-- Values that are lost, and with one of them a row. -/
theorem exists_lost_values :
    read valuesBehind = .ok (["a"], [Row.ofEntries [("a", .text "x")]]) ∧
      ∀ names, ¬ KeepsValues names [[.text "x", .int 1], [.missing, .int 2]]
        [Row.ofEntries [("a", .text "x")]] := by
  refine ⟨rfl, fun names hKept => ?_⟩
  have hLength : List.length [[Cell.text "x", .int 1], [.missing, .int 2]] = 1 := hKept.length_eq
  cases hLength

end TableFlow.Sheet
