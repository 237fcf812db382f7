import TableFlow.Formula.Eval
import TableFlow.Proofs.Cell.Plain

/-!
# Expressions at the rows of a table

The value of an expression at a row is its evaluation in a scope that holds the row, its position,
and the running totals of the columns at the row. The totals of a column are computed once for all
rows, when a row first asks for them; this is a matter of cost, and the lemmas of this file say what
the totals are without it.

The totals of a column either exist at every row or at none: one whole number that is too large for
a binary64 number, wherever it stands, fails them all. Where they exist, the total at a row does not
depend on the rows behind it.

## Main results

* `Running.ofColumn_of_not_isSummable`: a column with a cell that is too large has no totals.
* `Running.getElem?_ofColumn_append`: rows behind a row leave its total as it is.
* `getElem?_evaluateRows`: the value of an expression at a row.
-/

namespace TableFlow

/-- A cell has no number for one reason only. -/
theorem Cell.eq_integerTooLarge_of_toNumber {cell : Cell} {cause : Fault}
    (h : cell.toNumber = .error cause) : cause = .integerTooLarge := by
  cases cell with
  | int n =>
      rw [toNumber_int] at h
      cases hReached : Binary64.ofInt? n with
      | none =>
          rw [hReached] at h
          cases h
          rfl
      | some x =>
          rw [hReached] at h
          cases h
  | _ => cases h

namespace Formula

namespace Running

/-! ## Totals of one column -/

/-- No cell of the column is a number that is too large to be added up. -/
def IsSummable (rows : List Row) (column : String) : Prop :=
  ∀ row ∈ rows, HasValue (row.get column).toNumber

theorem length_scan (running : Running) (xs : List Binary64) :
    (scan running xs).length = xs.length := by
  induction xs generalizing running with
  | nil => rfl
  | cons x xs ih => simp only [scan, List.length_cons, ih]

theorem scan_append (running : Running) (xs ys : List Binary64) :
    scan running (xs ++ ys) = scan running xs ++ scan (xs.foldl add running) ys := by
  induction xs generalizing running with
  | nil => rfl
  | cons x xs ih => simp only [List.cons_append, scan, List.foldl_cons, ih]

theorem IsSummable.exists_numbers {rows : List Row} {column : String} (h : IsSummable rows column) :
    ∃ xs, (rows.mapM fun row => (row.get column).toNumber) = .ok xs ∧ xs.length = rows.length := by
  obtain ⟨xs, hNumbers, hLength, -⟩ := succeeds_mapM h
  exact ⟨xs, hNumbers, hLength⟩

/-- A column with a cell that is too large has no totals. -/
theorem ofColumn_of_not_isSummable {rows : List Row} {column : String}
    (h : ¬ IsSummable rows column) : ofColumn rows column = .error .integerTooLarge := by
  have hNumbers : (rows.mapM fun row => (row.get column).toNumber) = .error .integerTooLarge := by
    induction rows with
    | nil => exact absurd (by simp [IsSummable]) h
    | cons row rows ih =>
        rw [List.mapM_cons]
        cases hFirst : (row.get column).toNumber with
        | error cause =>
            rw [Cell.eq_integerTooLarge_of_toNumber hFirst]
            rfl
        | ok x =>
            have hRest : ¬ IsSummable rows column := by
              intro hRest
              exact h (List.forall_mem_cons.2 ⟨⟨x, hFirst, trivial⟩, hRest⟩)
            rw [ih hRest]
            rfl
  simp only [ofColumn, hNumbers]
  rfl

/-- Where the totals of a column exist, rows behind a row leave its total as it is. -/
theorem getElem?_ofColumn_append {front back : List Row} {column : String}
    (h : IsSummable (front ++ back) column) {index : Nat} (hIndex : index < front.length) :
    ∃ states states', ofColumn (front ++ back) column = .ok states ∧
      ofColumn front column = .ok states' ∧ states[index]? = states'[index]? := by
  obtain ⟨hFront, hBack⟩ := List.forall_mem_append.1 h
  obtain ⟨xs, hxs, hLength⟩ := IsSummable.exists_numbers hFront
  obtain ⟨ys, hys, -⟩ := IsSummable.exists_numbers hBack
  refine ⟨scan default (xs ++ ys), scan default xs, ?_, ?_, ?_⟩
  · simp only [ofColumn, List.mapM_append, hxs, hys]
    rfl
  · simp only [ofColumn, hxs]
    rfl
  · have hInside : index < (scan default xs).length := by
      rwa [length_scan, hLength]
    rw [scan_append, List.getElem?_append_left hInside]

/-- The totals of a column depend on the cells of the column alone. -/
theorem ofColumn_congr {rows rows' : List Row} {column : String}
    (h : rows.map (·.get column) = rows'.map (·.get column)) :
    ofColumn rows column = ofColumn rows' column := by
  have hMap : ∀ rows : List Row, (rows.mapM fun row => (row.get column).toNumber) =
      (rows.map (·.get column)).mapM Cell.toNumber := by
    intro rows
    rw [List.mapM_map]
    rfl
  simp only [ofColumn, hMap, h]

/-! ## The table of totals -/

private theorem lookup_totals {rows : List Row} {columns : List String} {column : String}
    {totals : Thunk (Except Fault (List Running))}
    (h : (columns.map fun column => (column, Thunk.mk fun _ => ofColumn rows column)).lookup
      column = some totals) : totals.get = ofColumn rows column := by
  induction columns with
  | nil => cases h
  | cons first columns ih =>
      rw [List.map_cons, List.lookup_cons] at h
      split at h
      · next hSame =>
        cases h
        rw [eq_of_beq hSame]
        rfl
      · exact ih h

/-- What the table of totals gives is what is computed without it. -/
theorem Table.column_ofRows (rows : List Row) :
    (Table.ofRows rows).column rows = ofColumn rows := by
  funext column
  unfold Table.column
  split
  · next totals hFound => exact lookup_totals hFound
  · rfl

end Running

/-! ## Values at rows -/

/-- The value of an expression at a row of a table. -/
theorem getElem?_evaluateRows (calls : Nat) (expr : Expr) (rows : List Row)
    (declared : List String) (index : Nat) :
    (evaluateRows calls expr rows declared)[index]? = rows[index]?.map fun row =>
      eval (Scope.at declared (Running.ofColumn rows) index row) calls expr := by
  simp only [evaluateRows, Running.Table.column_ofRows, List.getElem?_map, List.getElem?_zipIdx,
    Option.map_map, Nat.zero_add]
  rfl

end Formula

end TableFlow
