import TableFlow.Proofs.Formula.Reads
import TableFlow.Proofs.Formula.Running

/-!
# How far a formula looks ahead

The value of a formula at a row is meant to depend on that row and the rows in front of it. It does,
up to one thing: whether the columns that the formula adds up can be added up at all. The totals of
a column are computed for all rows at once, so a whole number beyond the binary64 numbers fails them
at every row, also at the rows in front of it.

## Main results

* `evaluateRows_eq_of_take_eq`: rows behind a row change nothing there, as long as they do not
  decide whether a column can be added up.
* `hasValue_sum_iff`: a running total exists at a row if and only if no row at all has a cell that
  is too large.
* `exists_lookahead`: so a row far behind can take the value of a formula away.
-/

namespace TableFlow.Formula

/-! ## Totals at a row -/

namespace Running

/-- The total of a column at the row of an index. -/
def totalAt (rows : List Row) (index : Nat) (column : String) : Except Fault Running := do
  let states ← ofColumn rows column
  .ok (states[index]?.getD default)

theorem totalAt_of_not_isSummable {rows : List Row} {column : String}
    (h : ¬ IsSummable rows column) (index : Nat) :
    totalAt rows index column = .error .integerTooLarge := by
  unfold totalAt
  rw [ofColumn_of_not_isSummable h]
  rfl

/-- Where a column can be added up, the rows up to a row decide the total there. -/
theorem totalAt_eq_take {rows : List Row} {column : String} (h : IsSummable rows column)
    {index : Nat} (hIndex : index < rows.length) :
    totalAt rows index column = totalAt (rows.take (index + 1)) index column := by
  have hInside : index < (rows.take (index + 1)).length := by
    rw [List.length_take]
    omega
  have hSplit : rows = rows.take (index + 1) ++ rows.drop (index + 1) :=
    (List.take_append_drop _ rows).symm
  rw [hSplit] at h
  obtain ⟨states, states', hWhole, hFront, hSame⟩ := getElem?_ofColumn_append h hInside
  rw [← hSplit] at hWhole
  unfold totalAt
  rw [hWhole, hFront]
  show Except.ok (states[index]?.getD default) = Except.ok (states'[index]?.getD default)
  rw [hSame]

theorem totalAt_congr {rows rows' : List Row} {index : Nat} {column : String}
    (hIndex : index < rows.length) (hIndex' : index < rows'.length)
    (hTake : rows.take (index + 1) = rows'.take (index + 1))
    (hSummable : IsSummable rows column ↔ IsSummable rows' column) :
    totalAt rows index column = totalAt rows' index column := by
  by_cases h : IsSummable rows column
  · calc totalAt rows index column
        = totalAt (rows.take (index + 1)) index column := totalAt_eq_take h hIndex
      _ = totalAt (rows'.take (index + 1)) index column := by rw [hTake]
      _ = totalAt rows' index column := (totalAt_eq_take (hSummable.1 h) hIndex').symm
  · have h' : ¬ IsSummable rows' column := fun hSummed => h (hSummable.2 hSummed)
    rw [totalAt_of_not_isSummable h, totalAt_of_not_isSummable h']

end Running

/-! ## Values at a row -/

/-- **Formulas look ahead for faults only.** In two tables that agree up to a row, an expression has
the same value there, or the same error, if the columns that it adds up can be added up in both
tables or in neither. -/
theorem evaluateRows_eq_of_take_eq (calls : Nat) {rows rows' : List Row} {index : Nat} {expr : Expr}
    (hIndex : index < rows.length) (hIndex' : index < rows'.length)
    (hTake : rows.take (index + 1) = rows'.take (index + 1))
    (hSummed : ∀ column ∈ expr.summedColumns,
      Running.IsSummable rows column ↔ Running.IsSummable rows' column)
    (declared : List String) :
    (evaluateRows calls expr rows declared)[index]? =
      (evaluateRows calls expr rows' declared)[index]? := by
  have hRow : rows[index]? = rows'[index]? := by
    have hTaken := congrArg (fun rows : List Row => rows[index]?) hTake
    simpa using hTaken
  rw [getElem?_evaluateRows, getElem?_evaluateRows, ← hRow]
  apply Option.map_congr
  intro row _
  have hAgree : Scope.AgreeOn expr (Scope.at declared (Running.ofColumn rows) index row)
      (Scope.at declared (Running.ofColumn rows') index row) :=
    { declared := rfl
      cell := fun _ _ => rfl
      running := fun column hColumn =>
        Running.totalAt_congr hIndex hIndex' hTake (hSummed column hColumn)
      position := fun _ => rfl }
  exact eval_congr hAgree calls

/-- The formula that adds a column up. -/
def sumOf (column : String) : Expr := .call "SUM" [.column column]

/-- The running total exists at a row if and only if no row, in front of it or behind it, has a cell
that is too large. -/
theorem hasValue_sum_iff {calls : Nat} (hCalls : 0 < calls) {rows : List Row} {index : Nat}
    (hIndex : index < rows.length) (column : String) (declared : List String) :
    ∃ result, (evaluateRows calls (sumOf column) rows declared)[index]? = some result ∧
      (HasValue result ↔ Running.IsSummable rows column) := by
  rw [getElem?_evaluateRows, List.getElem?_eq_getElem hIndex]
  refine ⟨_, rfl, ?_⟩
  obtain ⟨calls, rfl⟩ := Nat.exists_eq_add_one_of_ne_zero (Nat.ne_of_gt hCalls)
  show HasValue (lift (Running.totalAt rows index column) >>= fun running =>
    .ok (Cell.float running.total)) ↔ Running.IsSummable rows column
  by_cases h : Running.IsSummable rows column
  · obtain ⟨xs, hNumbers, -⟩ := h.exists_numbers
    have hTotal : Running.totalAt rows index column =
        .ok ((Running.scan default xs)[index]?.getD default) := by
      simp only [Running.totalAt, Running.ofColumn, hNumbers]
      rfl
    rw [hTotal]
    exact ⟨fun _ => h, fun _ => .ok trivial⟩
  · rw [Running.totalAt_of_not_isSummable h]
    constructor
    · rintro ⟨cell, hCell, -⟩
      cases hCell
    · intro hSummed
      exact absurd hSummed h

/-! ## Rows behind -/

/-- A formula with a total, a mean, and a condition that may fail. -/
def spread : Expr :=
  .call "IF" [.comparison ">" (.column "x") (.call "AVG" [.column "x"]),
    .arithmetic "-" (.call "SUM" [.column "x"]) (.column "x"), .call "LEN" [.column "x"]]

/-- A row of one column. -/
def single (cell : Cell) : Row := Row.empty.set "x" cell

def recorded : List Row := [single (.int 2), single (.text "5")]

/-- The recorded rows with one more row behind them. -/
def recordedThen (cell : Cell) : List Row := recorded ++ [single cell]

/-- A whole number beyond the binary64 numbers. -/
def tooLarge : Cell := .int (10 ^ 400)

theorem isSummable_recorded : Running.IsSummable recorded "x" := by
  have hNumber : HasValue (Cell.int 2).toNumber :=
    Cell.IsPlain.hasValue_toNumber (by decide +kernel)
  have hText : HasValue (Cell.text "5").toNumber := .ok trivial
  exact List.forall_mem_cons.2 ⟨hNumber, List.forall_mem_singleton.2 hText⟩

theorem isSummable_recordedThen_iff (cell : Cell) :
    Running.IsSummable (recordedThen cell) "x" ↔ HasValue cell.toNumber := by
  constructor
  · intro h
    exact (List.forall_mem_append.1 h).2 (single cell) (by simp)
  · intro h
    exact List.forall_mem_append.2 ⟨isSummable_recorded, List.forall_mem_singleton.2 h⟩

/-- What is no number is of no matter to the rows in front of it. -/
theorem evaluateRows_spread_eq :
    recorded.take 2 = (recordedThen (.text "none")).take 2 ∧
      (evaluateRows callLimit spread recorded [])[1]? =
        (evaluateRows callLimit spread (recordedThen (.text "none")) [])[1]? := by
  have hTake : recorded.take 2 = (recordedThen (.text "none")).take 2 := rfl
  have hText : Running.IsSummable (recordedThen (.text "none")) "x" :=
    (isSummable_recordedThen_iff _).2 (.ok trivial)
  have hNames : ∀ name ∈ spread.summedColumns, name = "x" := by decide
  refine ⟨hTake, evaluateRows_eq_of_take_eq callLimit (by decide) (by decide) hTake ?_ []⟩
  intro column hColumn
  rw [hNames column hColumn]
  exact ⟨fun _ => hText, fun _ => isSummable_recorded⟩

/-- A number that is too large takes the value of a formula away from the rows in front of it. So it
is not enough that two tables agree up to a row, not even for two errors to count as one outcome. -/
theorem exists_lookahead :
    ¬ ∀ (expr : Expr) (declared : List String) (rows rows' : List Row) (index : Nat),
      index < rows.length → index < rows'.length →
        rows.take (index + 1) = rows'.take (index + 1) →
          (evaluateRows callLimit expr rows declared)[index]?.map Except.toOption =
            (evaluateRows callLimit expr rows' declared)[index]?.map Except.toOption := by
  intro h
  have hSame := h (sumOf "x") [] recorded (recordedThen tooLarge) 1 (by decide) (by decide) rfl
  have hCalls : 0 < callLimit := by decide
  obtain ⟨result, hResult, hIff⟩ := @hasValue_sum_iff _ hCalls recorded 1 (by decide) "x" []
  obtain ⟨result', hResult', hIff'⟩ :=
    @hasValue_sum_iff _ hCalls (recordedThen tooLarge) 1 (by decide) "x" []
  have hNoNumber : ¬ HasValue tooLarge.toNumber := by
    have hNone : Binary64.ofInt? (10 ^ 400) = none := by decide +kernel
    rw [tooLarge, Cell.toNumber_int, hNone]
    rintro ⟨x, hx, -⟩
    cases hx
  have hNoValue : ¬ HasValue result' := by
    rw [hIff', isSummable_recordedThen_iff]
    exact hNoNumber
  rw [hResult, hResult'] at hSame
  obtain ⟨cell, rfl, -⟩ := hIff.2 isSummable_recorded
  cases result' with
  | ok cell' => exact hNoValue (.ok trivial)
  | error err => cases hSame

end TableFlow.Formula
