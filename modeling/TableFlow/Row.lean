import TableFlow.Cell.Basic

/-!
# Rows

A row gives cells to column names; the columns of a row are in order and no name occurs twice. A
cell that is put under a name that is already there takes the place of the old one.

## Main results

* `Row.columns_set`: a new name goes to the end, an old one stays where it is.
* `Row.get?_set_self` and `Row.get?_set_of_ne`: only the cell under the name changes.
-/

namespace TableFlow

/-- Puts a value under a key, in place of an older one or at the end. -/
def setEntry {α : Type} (entries : List (String × α)) (key : String) (value : α) :
    List (String × α) :=
  match entries with
  | [] => [(key, value)]
  | (k, v) :: rest =>
      if k = key then (key, value) :: rest else (k, v) :: setEntry rest key value

theorem map_fst_setEntry {α : Type} (entries : List (String × α)) (key : String) (value : α) :
    (setEntry entries key value).map Prod.fst =
      if key ∈ entries.map Prod.fst then entries.map Prod.fst
      else entries.map Prod.fst ++ [key] := by
  induction entries with
  | nil => simp [setEntry]
  | cons entry rest ih =>
    obtain ⟨k, v⟩ := entry
    by_cases h : k = key
    · simp [setEntry, h]
    · simp only [setEntry, h, if_false, List.map_cons, ih, List.mem_cons, Ne.symm h, false_or]
      split <;> simp

theorem nodup_setEntry {α : Type} {entries : List (String × α)} (key : String) (value : α)
    (h : (entries.map Prod.fst).Nodup) : ((setEntry entries key value).map Prod.fst).Nodup := by
  rw [map_fst_setEntry]
  split
  · exact h
  · next hKey =>
    rw [List.nodup_append]
    refine ⟨h, by simp, fun a ha b hb => ?_⟩
    rw [List.mem_singleton.1 hb]
    exact fun hEq => hKey (hEq ▸ ha)

/-- A row of a table. -/
structure Row where
  entries : List (String × Cell)
  nodup : (entries.map Prod.fst).Nodup

namespace Row

/-- The column names of a row, in order. -/
def columns (row : Row) : List String := row.entries.map Prod.fst

/-- The row without columns. -/
def empty : Row := ⟨[], by simp⟩

instance : Inhabited Row := ⟨empty⟩

/-- The cell under a name, if the row has the column. -/
def get? (row : Row) (column : String) : Option Cell := row.entries.lookup column

/-- The cell under a name, missing if the row does not have the column. -/
def get (row : Row) (column : String) : Cell := (row.get? column).getD .missing

/-- The cell under a name that a cell gives. The names of columns are texts, so a row lacks all
others; a list or a record cannot be looked up. -/
def lookup (row : Row) (name : Cell) : Except Fault Cell :=
  match name with
  | .text column => .ok (row.get column)
  | name => if name.isKey then .ok .missing else .error .notKey

/-- What a stage makes of rows under names of which not all are texts: nothing of no rows. -/
def unnamed (names : List Cell) (rows : List Row) : Except Fault (List Row) :=
  if rows.isEmpty then .ok []
  else .error (if names.all Cell.isKey then .nameNotText else .notKey)

/-- Puts a cell under a name. -/
def set (row : Row) (column : String) (cell : Cell) : Row :=
  ⟨setEntry row.entries column cell, nodup_setEntry column cell row.nodup⟩

/-- The row of a list of named cells, of which the last one under a name counts. -/
def ofEntries (entries : List (String × Cell)) : Row :=
  entries.foldl (fun row (column, cell) => row.set column cell) empty

theorem columns_set (row : Row) (column : String) (cell : Cell) :
    (row.set column cell).columns =
      if column ∈ row.columns then row.columns else row.columns ++ [column] :=
  map_fst_setEntry row.entries column cell

theorem lookup_setEntry_self {α : Type} (entries : List (String × α)) (key : String) (value : α) :
    (setEntry entries key value).lookup key = some value := by
  induction entries with
  | nil => simp [setEntry]
  | cons entry rest ih =>
    obtain ⟨k, v⟩ := entry
    by_cases h : k = key
    · simp [setEntry, h]
    · simp [setEntry, h, List.lookup_cons, ih, beq_false_of_ne (Ne.symm h)]

theorem lookup_setEntry_of_ne {α : Type} (entries : List (String × α)) {key other : String}
    (value : α) (h : other ≠ key) :
    (setEntry entries key value).lookup other = entries.lookup other := by
  induction entries with
  | nil => simp [setEntry, List.lookup_cons, beq_false_of_ne h]
  | cons entry rest ih =>
    obtain ⟨k, v⟩ := entry
    by_cases hKey : k = key
    · simp [setEntry, hKey, List.lookup_cons, beq_false_of_ne h]
    · simp only [setEntry, hKey, if_false, List.lookup_cons, ih]

theorem get?_set_self (row : Row) (column : String) (cell : Cell) :
    (row.set column cell).get? column = some cell :=
  lookup_setEntry_self row.entries column cell

theorem get?_set_of_ne (row : Row) {column other : String} (cell : Cell) (h : other ≠ column) :
    (row.set column cell).get? other = row.get? other :=
  lookup_setEntry_of_ne row.entries cell h

end Row

/-- The names that occur in a list, each at its first occurrence. -/
def firstOccurrences (names : List String) : List String :=
  names.foldl (fun seen name => if name ∈ seen then seen else seen ++ [name]) []

/-- The columns of a list of rows, in order of appearance. -/
def columnsOf (rows : List Row) : List String := firstOccurrences (rows.flatMap Row.columns)

end TableFlow
