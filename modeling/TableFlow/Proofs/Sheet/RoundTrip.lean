import TableFlow.Proofs.Cell.EqualNumbers
import TableFlow.Proofs.Sheet.Records
import TableFlow.Sheet.Table
import TableFlow.Source

/-!
# Tables that are written to a sheet and read back

A sheet has its own cells: dates come back as moments, numbers as equal numbers that can be of the
other type, and some cells have no value at all. What a table and the records of its sheet have in
common is said by the values alone: a record has the columns in which its row has a value, and rows
without any value are left out.

That numbers, dates and times keep their values in a workbook is assumed of each cell of the table.
For texts it is a condition on their characters.

## Main results

* `storeText_eq_self_iff`: the texts that a workbook keeps.
* `succeeds_store`: what a cell comes back as.
* `read_write`: a table comes back up to missing cells.
-/

namespace TableFlow

namespace Cell

/-- Tells if a cell has a value in a sheet: missing cells and numbers that are not finite have
none. -/
def isExported : Cell → Bool
  | .missing => false
  | .float x => x.isFinite
  | _ => true

/-- A cell of a table and the cell of a sheet that it comes back as. A date comes back as the
midnight it begins with, a number as an equal number, and everything else as it is. -/
inductive ComesBackAs : Cell → Cell → Prop
  | bool (b : Bool) : ComesBackAs (.bool b) (.bool b)
  | number {a b : Cell} (h : a.EqualNumbers b) : ComesBackAs a b
  | text (s : String) : ComesBackAs (.text s) (.text s)
  | date (d : Calendar.Date) : ComesBackAs (.date d) (.dateTime d.midnight)
  | dateTime (t : Calendar.DateTime) : ComesBackAs (.dateTime t) (.dateTime t)
  | time (t : Calendar.TimeOfDay) : ComesBackAs (.time t) (.time t)

theorem ComesBackAs.isMissing_eq_false {a b : Cell} (h : a.ComesBackAs b) :
    b.isMissing = false := by
  cases h with
  | number hEqual =>
      obtain ⟨units, -, hUnits⟩ := hEqual
      cases b with
      | missing => cases hUnits
      | _ => rfl
  | _ => rfl

end Cell

namespace Sheet

/-! ## Cells that a workbook keeps -/

/-- A text that a cell of a sheet can hold as it is. -/
structure FitsCell (s : String) : Prop where
  length : s.length ≤ longestText
  legal : ∀ c ∈ s.toList, isIllegal c = false
  noReturn : '\r' ∉ s.toList

instance decidableFitsCell (s : String) : Decidable (FitsCell s) :=
  decidable_of_iff (s.length ≤ longestText ∧ (s.toList.all fun c => !isIllegal c) = true ∧
      '\r' ∉ s.toList) <| by
    simp only [List.all_eq_true, Bool.not_eq_true']
    exact ⟨fun h => ⟨h.1, h.2.1, h.2.2⟩, fun h => ⟨h.length, h.legal, h.noReturn⟩⟩

/-- The workbook keeps the value of a cell. -/
def IsKept (cell : Cell) : Prop := Succeeds (store cell) cell.ComesBackAs

/-- A scalar cell whose value, if it has one, is kept: of a text that is not empty its characters
tell it, of a number, a date or a time it is assumed. -/
def IsStorable : Cell → Prop
  | .missing | .bool _ => True
  | .text s => s ≠ "" ∧ FitsCell s
  | .float x => x.isFinite → IsKept (.float x)
  | .int n => IsKept (.int n)
  | .date d => IsKept (.date d)
  | .dateTime t => IsKept (.dateTime t)
  | .time t => IsKept (.time t)
  | .list _ | .record _ => False

/-- What a cell of a table is in a sheet, if it is anything. -/
def IsInSheet (cell value : Cell) : Prop :=
  if cell.isExported then cell.ComesBackAs value else value = .missing

theorem IsInSheet.isMissing_eq {cell value : Cell} (h : IsInSheet cell value) :
    (!value.isMissing) = cell.isExported := by
  unfold IsInSheet at h
  split at h
  · next hExported => rw [h.isMissing_eq_false, hExported]; rfl
  · next hExported =>
    rw [h, Bool.not_eq_true] at *
    rw [hExported]
    rfl

/-! ### Texts -/

theorem return_notMem_unifyNewlines (cs : List Char) : '\r' ∉ Text.unifyNewlines cs := by
  fun_induction Text.unifyNewlines cs with
  | case1 => exact List.not_mem_nil
  | case2 rest ih => simpa using ih
  | case3 rest _ ih => simpa using ih
  | case4 c rest _ hReturn ih =>
      rw [List.mem_cons, not_or]
      exact ⟨fun h => hReturn h.symm, ih⟩

theorem length_unifyNewlines_le (cs : List Char) :
    (Text.unifyNewlines cs).length ≤ cs.length := by
  fun_induction Text.unifyNewlines cs with
  | case1 => exact Nat.le_refl 0
  | case2 rest ih => simp only [List.length_cons]; omega
  | case3 rest _ ih => simp only [List.length_cons]; omega
  | case4 c rest _ _ ih => simp only [List.length_cons]; omega

/-- The texts that a workbook keeps are those that fit. -/
theorem storeText_eq_self_iff {s : String} : storeText s = .ok (.text s) ↔ FitsCell s := by
  constructor
  · intro h
    unfold storeText at h
    dsimp only at h
    split at h
    · cases h
    · next hLegal =>
      have hText : Text.unifyNewlines (s.toList.take longestText) = s.toList := by
        rw [Except.ok.injEq, Cell.text.injEq] at h
        conv_rhs => rw [← h, String.toList_ofList]
      have hLength : s.length ≤ longestText := by
        have hShort := length_unifyNewlines_le (s.toList.take longestText)
        rw [hText, List.length_take, String.length_toList] at hShort
        omega
      have hAll : s.toList.take longestText = s.toList :=
        List.take_of_length_le (by rwa [String.length_toList])
      rw [hAll] at hText hLegal
      refine ⟨hLength, fun c hc => ?_, hText ▸ return_notMem_unifyNewlines _⟩
      rw [Bool.not_eq_true, List.any_eq_false] at hLegal
      exact Bool.not_eq_true _ ▸ hLegal c hc
  · rintro ⟨hLength, hLegal, hReturn⟩
    have hAll : s.toList.take longestText = s.toList :=
      List.take_of_length_le (by rwa [String.length_toList])
    have hNone : s.toList.any isIllegal = false :=
      List.any_eq_false.2 fun c hc => by rw [hLegal c hc]; exact Bool.false_ne_true
    unfold storeText
    dsimp only
    rw [hAll, hNone, Text.unifyNewlines_eq_self hReturn, String.ofList_toList]
    rfl

theorem valueOf_text {s : String} (h : s ≠ "") : valueOf (.text s) = .text s :=
  if_neg (by simpa using h)

/-! ### All cells -/

theorem IsKept.isInSheet {cell : Cell} (hText : ∀ s, cell ≠ .text s) (h : IsKept cell)
    (hExported : cell.isExported = true) :
    Succeeds (store cell) fun stored => IsInSheet cell (valueOf stored) := by
  refine h.mono fun stored hStored => ?_
  have hValue : valueOf stored = stored := by
    cases hStored with
    | text s => exact absurd rfl (hText s)
    | number hEqual =>
        obtain ⟨units, -, hUnits⟩ := hEqual
        cases stored with
        | text s => cases hUnits
        | _ => rfl
    | _ => rfl
  rw [hValue, IsInSheet, if_pos hExported]
  exact hStored

/-- What a cell comes back as. -/
theorem succeeds_store {cell : Cell} (h : IsStorable cell) :
    Succeeds (store cell) fun stored => IsInSheet cell (valueOf stored) := by
  cases cell with
  | missing => exact .ok rfl
  | bool b => exact .ok (.bool b)
  | text s =>
      obtain ⟨hSome, hFits⟩ := h
      have hValue : IsInSheet (.text s) (valueOf (.text s)) := by
        rw [valueOf_text hSome]
        exact .text s
      exact ⟨.text s, storeText_eq_self_iff.2 hFits, hValue⟩
  | float x =>
      cases x with
      | finite negative units hUnits => exact (h rfl).isInSheet (by rintro s ⟨⟩) rfl
      | infinite negative => exact .ok rfl
      | nan => exact .ok rfl
  | int n => exact IsKept.isInSheet (by rintro s ⟨⟩) h rfl
  | date d => exact IsKept.isInSheet (by rintro s ⟨⟩) h rfl
  | dateTime t => exact IsKept.isInSheet (by rintro s ⟨⟩) h rfl
  | time t => exact IsKept.isInSheet (by rintro s ⟨⟩) h rfl
  | list cells => exact h.elim
  | record fields => exact h.elim

/-! ### Checks of numbers and dates -/

instance decidableIsDateTime (t : Calendar.DateTime) :
    (cell : Cell) → Decidable (.dateTime t = cell)
  | .dateTime t' => decidable_of_iff (t = t') ⟨congrArg Cell.dateTime, Cell.dateTime.inj⟩
  | .missing | .bool _ | .int _ | .float _ | .text _ | .date _ | .time _ | .list _
  | .record _ => .isFalse (by rintro ⟨⟩)

instance decidableIsTime (t : Calendar.TimeOfDay) : (cell : Cell) → Decidable (.time t = cell)
  | .time t' => decidable_of_iff (t = t') ⟨congrArg Cell.time, Cell.time.inj⟩
  | .missing | .bool _ | .int _ | .float _ | .text _ | .date _ | .dateTime _ | .list _
  | .record _ => .isFalse (by rintro ⟨⟩)

theorem isKept_number {cell : Cell} (h : Succeeds (store cell) cell.EqualNumbers) : IsKept cell :=
  h.mono fun _ hStored => .number hStored

theorem isKept_of_eq {cell kept : Cell} (hKept : cell.ComesBackAs kept)
    (h : Succeeds (store cell) (kept = ·)) : IsKept cell :=
  h.mono fun _ hStored => hStored ▸ hKept

/-! ## Headers -/

theorem storeRow_texts {texts : List String} (h : ∀ text ∈ texts, FitsCell text) :
    storeRow (texts.map .text) = .ok (texts.map .text) := by
  rw [storeRow, List.mapM_map, mapM_congr_left (g := fun text => .ok (.text text))]
  · exact List.mapM_pure
  · exact fun text hText => storeText_eq_self_iff.2 (h text hText)

theorem map_valueOf_texts {texts : List String} (h : ∀ text ∈ texts, text ≠ "") :
    (texts.map Cell.text).map valueOf = texts.map .text := by
  rw [List.map_map]
  exact List.map_congr_left fun text hText => valueOf_text (h text hText)

/-! ## Rows -/

/-- Tells if a row has a value in one of the columns. -/
def exportsAny (columns : List String) (row : Row) : Bool :=
  columns.any fun column => (row.get column).isExported

/-- A record has the columns in which a row has a value, with what the cells come back as, and
nothing else. -/
def ReadBack (columns : List String) (row record : Row) : Prop :=
  List.Forall₂ (fun column entry => entry.1 = column ∧ (row.get column).ComesBackAs entry.2)
    (columns.filter fun column => (row.get column).isExported) record.entries

section

variable {columns : List String} {row : Row} {values : List Cell}

theorem forall₂_entries
    (h : List.Forall₂ (fun column value => IsInSheet (row.get column) value) columns values) :
    List.Forall₂ (fun column entry => entry.1 = column ∧ (row.get column).ComesBackAs entry.2)
      (columns.filter fun column => (row.get column).isExported)
      ((columns.zip values).filter fun (_, value) => !value.isMissing) := by
  induction h with
  | nil => exact .nil
  | @cons column value columns values hFirst hRest ih =>
      have hSame := hFirst.isMissing_eq
      rw [List.zip_cons_cons, List.filter_cons, List.filter_cons]
      cases hExported : (row.get column).isExported with
      | true =>
          rw [if_pos rfl, if_pos (hSame.trans hExported)]
          rw [IsInSheet, if_pos hExported] at hFirst
          exact .cons ⟨rfl, hFirst⟩ ih
      | false =>
          have hNone : ¬(!value.isMissing) = true := by
            rw [hSame, hExported]
            exact Bool.false_ne_true
          rw [if_neg Bool.false_ne_true, if_neg hNone]
          exact ih

theorem readBack_record (hColumns : columns.Nodup)
    (h : List.Forall₂ (fun column value => IsInSheet (row.get column) value) columns values) :
    ReadBack columns row (record columns values) := by
  rw [ReadBack, entries_record hColumns]
  exact forall₂_entries h

/-- Rows without any value have an empty record. -/
theorem isEmpty_entries_eq {record : Row} (h : ReadBack columns row record) :
    (!record.entries.isEmpty) = exportsAny columns row := by
  have hLength := List.Forall₂.length_eq h
  have hAny : exportsAny columns row =
      !(columns.filter fun column => (row.get column).isExported).isEmpty := by
    rw [Bool.eq_iff_iff, exportsAny, List.any_eq_true]
    simp
  rw [hAny]
  cases hEntries : record.entries <;>
    cases hFilter : columns.filter fun column => (row.get column).isExported <;>
    simp [hEntries, hFilter] at hLength ⊢

/-- The rows of a table are stored, and each of their records has their values. -/
theorem succeeds_storeRows {rows : List Row} (hColumns : columns.Nodup)
    (h : ∀ row ∈ rows, ∀ column ∈ columns, IsStorable (row.get column)) :
    Succeeds (rows.mapM fun row => storeRow (columns.map row.get)) <|
      List.Forall₂ (fun row cells => ReadBack columns row (record columns (cells.map valueOf)))
        rows := by
  refine succeeds_mapM_forall₂ fun row hRow => ?_
  have hStored : Succeeds ((columns.map row.get).mapM store) <|
      List.Forall₂ (fun cell stored => IsInSheet cell (valueOf stored)) (columns.map row.get) := by
    refine succeeds_mapM_forall₂ fun cell hCell => ?_
    obtain ⟨column, hColumn, rfl⟩ := List.mem_map.1 hCell
    exact succeeds_store (h row hRow column hColumn)
  refine hStored.mono fun cells hCells => readBack_record hColumns ?_
  rw [List.forall₂_map_right_iff]
  exact List.forall₂_map_left_iff.1 hCells

end

theorem write_eq {rows : List Row} {columns : List String} {title shown : String}
    {header : List Cell} {body : List (List Cell)} (hTitle : checkTitle title = .ok shown)
    (hHeader : storeRow (columns.map .text) = .ok header)
    (hBody : (rows.mapM fun row => storeRow (columns.map row.get)) = .ok body) :
    write rows columns title = .ok ⟨shown, header :: body⟩ := by
  rw [write, hTitle]
  show (storeRow (columns.map .text) >>= fun header => _) = _
  rw [hHeader]
  show ((rows.mapM fun row => storeRow (columns.map row.get)) >>= fun body => _) = _
  rw [hBody]
  rfl

/-- **A table comes back from its sheet, up to missing cells.** Its columns have different names
that are not empty and fit into cells, and each of its cells is a scalar that a workbook keeps, no
text being empty. Then it is written, and the workbook is read as the same columns and one record
for each row that has a value in some column, in the order of the rows. The record has exactly the
columns in which the row has a value: the text, the boolean, the time or an equal number that was
there, or the moment of a date or a moment. -/
theorem read_write {rows : List Row} {columns : List String} {title : String} (name : String)
    (hTitle : HasValue (checkTitle title)) (hColumns : columns.Nodup)
    (hNames : ∀ column ∈ columns, column ≠ "" ∧ FitsCell column)
    (hCells : ∀ row ∈ rows, ∀ column ∈ columns, IsStorable (row.get column)) :
    ∃ grid records, write rows columns title = .ok grid ∧
      (Source.workbook name none).readContent (.workbook [grid]) = .ok ⟨columns, records⟩ ∧
      List.Forall₂ (ReadBack columns) (rows.filter (exportsAny columns)) records := by
  obtain ⟨shown, hShown, -⟩ := hTitle
  obtain ⟨body, hBody, hRecords⟩ := succeeds_storeRows hColumns hCells
  have hWrite : write rows columns title = .ok ⟨shown, columns.map .text :: body⟩ :=
    write_eq hShown (storeRow_texts fun column hColumn => (hNames column hColumn).2) hBody
  have hValues : Grid.values ⟨shown, columns.map .text :: body⟩ =
      columns.map .text :: body.map (·.map valueOf) := by
    rw [Grid.values, List.map_cons,
      map_valueOf_texts fun column hColumn => (hNames column hColumn).1]
  have hAll : List.Forall₂ (ReadBack columns) rows
      (body.map fun cells => record columns (cells.map valueOf)) :=
    List.forall₂_map_right_iff.2 hRecords
  have hKept : List.Forall₂ (ReadBack columns) (rows.filter (exportsAny columns))
      ((body.map fun cells => record columns (cells.map valueOf)).filter
        fun record => !record.entries.isEmpty) := by
    refine List.rel_filter ?_ hAll
    intro row record hRow
    exact Bool.eq_iff_iff.1 (isEmpty_entries_eq hRow).symm
  refine ⟨_, _, hWrite, ?_, hKept⟩
  simp only [Source.readContent, Source.readWorkbook, select?, List.head?_cons]
  rw [read_eq hValues (headerNames_texts hColumns), List.map_map]
  rfl

/-- The last day of a leap year. -/
def lastDay : Calendar.Date := ⟨2024, 12, 31, by decide⟩

/-- Half a minute after noon. -/
def afterNoon : Calendar.Clock := ⟨12, 0, 30, 0, by decide⟩

/-- Rows with cells of all scalar types, one row without any value. -/
def mixedCells : List Row := [
  Row.ofEntries [("=a", .text "=1+1"), ("c", .date lastDay),
    ("b", .float (Binary64.nearestInt 5 / Binary64.nearestInt 2))],
  Row.ofEntries [("b", .float .nan), ("c", .float (.infinite true))],
  Row.ofEntries [("c", .time ⟨afterNoon, none⟩), ("=a", .bool false), ("b", .int (-7))],
  Row.ofEntries [("c", .dateTime ⟨lastDay, afterNoon, none⟩), ("d", .text "d"), ("b", .missing)]]

theorem read_write_mixedCells :
    ["=a", "b", "c"].Nodup ∧ ∃ grid records, write mixedCells ["=a", "b", "c"] "Data" = .ok grid ∧
      (Source.workbook "data.xlsx" none).readContent (.workbook [grid]) =
        .ok ⟨["=a", "b", "c"], records⟩ ∧
      List.Forall₂ (ReadBack ["=a", "b", "c"])
        (mixedCells.filter (exportsAny ["=a", "b", "c"])) records := by
  have hHalves : IsKept (.float (Binary64.nearestInt 5 / Binary64.nearestInt 2)) :=
    isKept_number (by decide +kernel)
  have hNegative : IsKept (.int (-7)) := isKept_number (by decide +kernel)
  have hDay : IsKept (.date lastDay) := isKept_of_eq (.date _) (by decide +kernel)
  have hTime : IsKept (.time ⟨afterNoon, none⟩) := isKept_of_eq (.time _) (by decide +kernel)
  have hMoment : IsKept (.dateTime ⟨lastDay, afterNoon, none⟩) :=
    isKept_of_eq (.dateTime _) (by decide +kernel)
  have hText : IsStorable (.text "=1+1") := ⟨by decide, by decide +kernel⟩
  refine ⟨by decide, read_write "data.xlsx" ⟨"Data", by rfl, trivial⟩ (by decide)
    (by decide +kernel) ?_⟩
  simp only [mixedCells, List.forall_mem_cons, List.not_mem_nil, false_implies, implies_true,
    and_true]
  exact ⟨⟨hText, fun _ => hHalves, hDay⟩, ⟨trivial, nofun, nofun⟩, ⟨trivial, hNegative, hTime⟩,
    trivial, trivial, hMoment⟩

end Sheet

end TableFlow
