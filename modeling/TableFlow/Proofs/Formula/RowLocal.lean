import TableFlow.Formula.Column
import TableFlow.Proofs.Formula.Reads
import TableFlow.Proofs.Formula.Running

/-!
# Formulas that see one row

Three functions tell a formula more than its row: `SUM` and `AVG` add up the rows in front of it,
and `ROW` gives its place. The value of a formula without them depends on the row alone, though it
is computed in a table. So the column of such a formula is computed row by row, and it makes no
difference whether rows are selected, repeated, put together or put in another order before or
after that.

## Main results

* `Formula.evaluateRows_eq_map`: the values of an expression that sees one row.
* `FormulaColumn.cells_eq_map`: the cells of the column, row by row.
* `FormulaColumn.apply_rowwise`: the column is computed alike before and after rows are rearranged.
-/

namespace TableFlow

namespace Formula

/-- The functions whose value depends on more than the row. -/
def tableFunctions : List String := ["SUM", "AVG", "ROW"]

/-- The expression calls no function that depends on more than the row. -/
def Expr.SeesOneRow (e : Expr) : Prop := ∀ function ∈ tableFunctions, function ∉ e.functions

theorem Expr.SeesOneRow.notMem_summedColumns {e : Expr} (h : e.SeesOneRow) (name : String) :
    name ∉ e.summedColumns := by
  intro hName
  obtain ⟨part, hPart, hSummed⟩ := List.mem_filterMap.1 hName
  unfold Expr.summedColumn? at hSummed
  split at hSummed
  · next function column =>
    have hCalled : function ∈ e.functions := List.mem_filterMap.2 ⟨_, hPart, rfl⟩
    by_cases hFunction : function = "SUM" ∨ function = "AVG"
    · exact h function (by simp [tableFunctions]; tauto) hCalled
    · simp [hFunction] at hSummed
  · cases hSummed

/-- At two rows with the same cells, an expression that sees one row has one value. -/
theorem eval_congr_of_seesOneRow {e : Expr} (h : e.SeesOneRow) {s s' : Scope}
    (hRow : s.row = s'.row) (hDeclared : s.declared = s'.declared) (depth : Nat) :
    eval s depth e = eval s' depth e := by
  have hAgree : Scope.AgreeOn e s s' :=
    { declared := hDeclared
      cell := fun name _ => by rw [hRow]
      running := fun name hName => absurd hName (h.notMem_summedColumns name)
      position := fun hCalled => absurd hCalled (h "ROW" (by decide)) }
  exact eval_congr hAgree depth

/-- The value of an expression at the only row of a table. -/
def evaluateAlone (calls : Nat) (e : Expr) (declared : List String) (row : Row) :
    Except EvalError Cell :=
  eval (Scope.at declared (Running.ofColumn [row]) 0 row) calls e

/-- The values of an expression that sees one row are computed row by row. -/
theorem evaluateRows_eq_map (calls : Nat) {e : Expr} (h : e.SeesOneRow) (rows : List Row)
    (declared : List String) :
    evaluateRows calls e rows declared = rows.map (evaluateAlone calls e declared) := by
  apply List.ext_getElem?
  intro index
  rw [getElem?_evaluateRows, List.getElem?_map]
  apply Option.map_congr
  intro row _
  apply eval_congr_of_seesOneRow h
  · rfl
  · rfl

/-- The functions that a text calls as a formula that is read by at most `calls` calls; one that
cannot be read calls none. -/
def functionsCalled (calls : Nat) (text : String) : List String :=
  match read calls text with
  | .error _ => []
  | .ok e => e.functions

end Formula

/-! ## Columns -/

/-- The rows at the given places, in the order of the places and as often as they occur. A place
behind the last row gives none. -/
def rowsAt (rows : List Row) (places : List Nat) : List Row :=
  places.filterMap fun place => rows[place]?

theorem map_rowsAt (f : Row → Row) (rows : List Row) (places : List Nat) :
    (rowsAt rows places).map f = rowsAt (rows.map f) places := by
  simp [rowsAt, List.map_filterMap]

namespace FormulaColumn

variable {calls : Nat} {text : String} {declared : List String}

/-- The cell that a text gives as a formula at the only row of a table. -/
def cellAlone (calls : Nat) (text : String) (declared : List String) (row : Row) : Cell :=
  ((cells calls text declared [row]).head?).getD .missing

/-- The cells of the column are computed row by row. -/
theorem cells_eq_map
    (h : ∀ function ∈ Formula.tableFunctions, function ∉ Formula.functionsCalled calls text)
    (rows : List Row) :
    cells calls text declared rows = rows.map (cellAlone calls text declared) := by
  unfold Formula.functionsCalled at h
  cases hRead : Formula.read calls text with
  | error err =>
      have hAlone : cellAlone calls text declared = fun _ => .missing := by
        funext row
        simp [cellAlone, cells, hRead]
      simp [cells, hRead, hAlone]
  | ok e =>
      rw [hRead] at h
      simp [cellAlone, cells, hRead, Formula.evaluateRows_eq_map calls h]

/-- **Formulas without totals and places are computed row by row.** A text that calls neither `SUM`,
`AVG` nor `ROW`, or cannot be read, gives each row what it gives that row alone. So the column may
be computed before or after rows are selected, repeated and put in another order, and before or
after two tables are put together. -/
theorem apply_rowwise (name : String) (declared : List String)
    (h : ∀ function ∈ Formula.tableFunctions, function ∉ Formula.functionsCalled calls text) :
    ∃ fill : Row → Row,
      (∀ row, (ofText name text).apply declared calls [row] = .ok [fill row]) ∧
      (∀ rows, (ofText name text).apply declared calls rows = .ok (rows.map fill)) ∧
      (∀ rows filled places, (ofText name text).apply declared calls rows = .ok filled →
        (ofText name text).apply declared calls (rowsAt rows places) = .ok (rowsAt filled places)) ∧
      ∀ rows filled rows' filled', (ofText name text).apply declared calls rows = .ok filled →
        (ofText name text).apply declared calls rows' = .ok filled' →
          (ofText name text).apply declared calls (rows ++ rows') = .ok (filled ++ filled') := by
  let fill : Row → Row := fun row => row.set name (cellAlone calls text declared row)
  have hMap : ∀ rows, (ofText name text).apply declared calls rows = .ok (rows.map fill) := by
    intro rows
    simp [apply, ofText, filled, cells_eq_map h, List.zipWith_map_right, fill]
  refine ⟨fill, fun row => hMap [row], hMap, ?_, ?_⟩
  · intro rows filled places hFilled
    rw [hMap, Except.ok.injEq] at hFilled
    rw [hMap, map_rowsAt, hFilled]
  · intro rows filled rows' filled' hFilled hFilled'
    rw [hMap, Except.ok.injEq] at hFilled hFilled'
    rw [hMap, List.map_append, hFilled, hFilled']

/-- A condition that swallows a failure, a name that not every row has, and a text that grows. -/
def labelled : String := "IF(x / y > 1, LEN(x) + 'a', [unit price])"

def someRows : List Row := [
  Row.ofEntries [("x", .int 3), ("y", .float .zero), ("unit price", .text "4")],
  Row.ofEntries [("x", .text "3"), ("y", .int 2)], Row.ofEntries [("y", .list [.missing])]]

/-- The column of such a formula, for rows that are repeated and left out. -/
theorem apply_rowwise_labelled :
    ∃ filled, (ofText "label" labelled).apply [] callLimit someRows = .ok filled ∧
      (ofText "label" labelled).apply [] callLimit (rowsAt someRows [2, 0, 2, 5]) =
        .ok (rowsAt filled [2, 0, 2, 5]) := by
  have hCalled : ∀ function ∈ Formula.tableFunctions,
      function ∉ Formula.functionsCalled callLimit labelled := by
    decide +kernel
  obtain ⟨fill, -, hMap, hPlaces, -⟩ := apply_rowwise "label" [] hCalled
  exact ⟨_, hMap someRows, hPlaces _ _ _ (hMap someRows)⟩

end FormulaColumn

end TableFlow
