import TableFlow.Proofs.Cell.Plain

/-!
# Cells whose whole numbers fit the format

The only values that have no text or no number are whole numbers, wherever they stand in a cell: a
numeral can be too long, and a number beyond the binary64 numbers. Both are ruled out if each whole
number has a binary64 number next to it. Lists and records are not ruled out.

## Main results

* `Cell.FitsFormat.converts` and `Row.FitsFormat.converts`: texts and numbers exist.
-/

namespace TableFlow

namespace Cell

mutual

/-- The whole numbers of a cell, those inside of lists and records included. -/
def wholeNumbers : Cell → List Int
  | .int n => [n]
  | .list cells => wholeNumbersOfAll cells
  | .record fields => wholeNumbersOfFields fields
  | .missing | .bool _ | .float _ | .text _ | .date _ | .dateTime _ | .time _ => []

/-- The whole numbers of the elements of a list. -/
def wholeNumbersOfAll : List Cell → List Int
  | [] => []
  | cell :: cells => wholeNumbers cell ++ wholeNumbersOfAll cells

/-- The whole numbers of the fields of a record. -/
def wholeNumbersOfFields : List (String × Cell) → List Int
  | [] => []
  | (_, cell) :: fields => wholeNumbers cell ++ wholeNumbersOfFields fields

end

end Cell

/-- Whole numbers that the binary64 numbers reach. -/
def FitFormat (ns : List Int) : Prop := ∀ n ∈ ns, (Binary64.ofInt? n).isSome

instance decidableFitFormat (ns : List Int) : Decidable (FitFormat ns) :=
  inferInstanceAs (Decidable (∀ n ∈ ns, _))

theorem fitFormat_append {ms ns : List Int} :
    FitFormat (ms ++ ns) ↔ FitFormat ms ∧ FitFormat ns :=
  List.forall_mem_append

namespace Cell

mutual

theorem hasValue_literal (cell : Cell) (h : FitFormat cell.wholeNumbers) :
    HasValue cell.literal := by
  cases cell with
  | int n => exact (succeeds_intNumeral (h n (List.mem_singleton_self n))).hasValue
  | list cells => exact (hasValue_literals cells h).bind fun _ _ => .ok trivial
  | record fields => exact (hasValue_fieldLiterals fields h).bind fun _ _ => .ok trivial
  | missing => exact .ok trivial
  | bool b => exact .ok trivial
  | float x => exact .ok trivial
  | text s => exact .ok trivial
  | date d => exact .ok trivial
  | dateTime t => exact .ok trivial
  | time t => exact .ok trivial

theorem hasValue_literals (cells : List Cell)
    (h : FitFormat (wholeNumbersOfAll cells)) : HasValue (literals cells) := by
  cases cells with
  | nil => exact .ok trivial
  | cons cell cells =>
      obtain ⟨hFirst, hRest⟩ := fitFormat_append.1 h
      exact (hasValue_literal cell hFirst).bind fun _ _ =>
        (hasValue_literals cells hRest).bind fun _ _ => .ok trivial

theorem hasValue_fieldLiterals (fields : List (String × Cell))
    (h : FitFormat (wholeNumbersOfFields fields)) : HasValue (fieldLiterals fields) := by
  cases fields with
  | nil => exact .ok trivial
  | cons field fields =>
      obtain ⟨hFirst, hRest⟩ := fitFormat_append.1 h
      exact (hasValue_literal field.2 hFirst).bind fun _ _ =>
        (hasValue_fieldLiterals fields hRest).bind fun _ _ => .ok trivial

end

/-- Each whole number of the cell has a binary64 number next to it. -/
def FitsFormat (cell : Cell) : Prop := FitFormat cell.wholeNumbers

theorem FitsFormat.hasValue_toText {cell : Cell} (h : cell.FitsFormat) :
    HasValue cell.toText := by
  cases cell with
  | int n => exact (succeeds_intNumeral (h n (List.mem_singleton_self n))).hasValue
  | list cells => exact hasValue_literal (.list cells) h
  | record fields => exact hasValue_literal (.record fields) h
  | missing => exact .ok trivial
  | bool b => exact .ok trivial
  | float x => exact .ok trivial
  | text s => exact .ok trivial
  | date d => exact .ok trivial
  | dateTime t => exact .ok trivial
  | time t => exact .ok trivial

theorem FitsFormat.hasValue_toNumber {cell : Cell} (h : cell.FitsFormat) :
    HasValue cell.toNumber := by
  refine hasValue_toNumber_of_fits fun n hWhole => ?_
  subst hWhole
  exact h n (List.mem_singleton_self n)

theorem FitsFormat.converts {cell : Cell} (h : cell.FitsFormat) : cell.Converts :=
  ⟨h.hasValue_toText, h.hasValue_toNumber⟩

end Cell

namespace Row

/-- The whole numbers of all cells of the row fit the format. -/
def FitsFormat (row : Row) : Prop := ∀ entry ∈ row.entries, entry.2.FitsFormat

instance : DecidablePred FitsFormat := fun row =>
  inferInstanceAs (Decidable (∀ entry ∈ row.entries, FitFormat entry.2.wholeNumbers))

theorem FitsFormat.converts {row : Row} (h : row.FitsFormat) : row.Converts := by
  intro column
  cases hCell : row.get? column with
  | none =>
      rw [get, hCell]
      exact Cell.converts_missing
  | some cell =>
      obtain ⟨before, after, hEntries, -⟩ := List.lookup_eq_some_iff.1 hCell
      rw [get, hCell]
      refine (h (column, cell) ?_).converts
      rw [hEntries]
      simp

end Row

end TableFlow
