import TableFlow.Grouping
import TableFlow.Proofs.Binary64.Addition
import TableFlow.Proofs.Formula.LookAhead

/-!
# Totals that are kept

The totals of a column at all rows are computed in one pass and kept, so that a formula that adds
the column up at each row does not start from the first row every time. What is kept does not show:
the value of a call depends on its own column and row, not on the calls before it, and it is what
comes out if the rows up to that row are added up afresh.

In one pass, cells that give no number are left out; afresh, they add zero. As no sum from zero on
is negative zero, this is the same.

## Main results

* `Running.total_foldl_add` and `Running.count_foldl_add`: the total after some numbers.
* `Evaluator.evaluate_after`: the calls before an evaluation make no difference to it.
* `evaluate_eq_afresh`: sums and means of a column, computed with totals that are kept.
-/

namespace TableFlow.Formula

open Binary64 (zero negativeZero)

/-! ## Totals in one pass -/

/-- A number, or zero in the place of what is none. -/
def numberOrZero (x : Binary64) : Binary64 := if x.isNaN then .zero else x

namespace Running

/-- What is no number adds zero. -/
theorem total_add {running : Running} (h : running.total ≠ negativeZero) (x : Binary64) :
    (running.add x).total = running.total + numberOrZero x := by
  unfold add numberOrZero
  split
  · exact (Binary64.add_zero_eq h).symm
  · rfl

theorem total_foldl_add {running : Running} (h : running.total ≠ negativeZero)
    (xs : List Binary64) :
    (xs.foldl add running).total = (xs.map numberOrZero).foldl (· + ·) running.total := by
  induction xs generalizing running with
  | nil => rfl
  | cons x xs ih =>
      have hTotal := total_add h x
      have hNext : (running.add x).total ≠ negativeZero := by
        rw [hTotal]
        exact Binary64.add_ne_negativeZero h _
      rw [List.foldl_cons, ih hNext, hTotal, List.map_cons, List.foldl_cons]

theorem count_foldl_add (running : Running) (xs : List Binary64) :
    (xs.foldl add running).count = running.count + (xs.filter (!·.isNaN)).length := by
  induction xs generalizing running with
  | nil => rfl
  | cons x xs ih =>
      rw [List.foldl_cons, ih]
      unfold add
      cases hNumber : x.isNaN with
      | true => simp [hNumber]
      | false =>
          simp only [hNumber, Bool.not_false, List.filter_cons_of_pos, List.length_cons]
          simp only [Bool.false_eq_true, if_false]
          omega

/-- The last state of a scan has taken in all numbers. -/
theorem getElem?_scan_last (running : Running) {xs : List Binary64} {index : Nat}
    (h : xs.length = index + 1) : (scan running xs)[index]? = some (xs.foldl add running) := by
  induction xs generalizing running index with
  | nil => cases h
  | cons x xs ih =>
      cases index with
      | zero =>
          cases List.eq_nil_of_length_eq_zero (Nat.succ.inj h)
          rfl
      | succ index => exact ih (running.add x) (Nat.succ.inj h)

end Running

/-! ## Calls -/

/-- The functions that add a column up. -/
inductive RunningFunction where
  | sum
  | mean
deriving DecidableEq, Repr

def RunningFunction.name : RunningFunction → String
  | .sum => "SUM"
  | .mean => "AVG"

/-- A call that adds a column up to the row of an index. -/
structure RunningCall where
  function : RunningFunction
  column : String
  index : Nat
deriving DecidableEq, Repr

namespace RunningCall

/-- The call as an expression. -/
def expr (call : RunningCall) : Expr := .call call.function.name [.column call.column]

/-- What the call comes to if the numbers up to its row are added afresh, from left to right and
starting from zero. A cell that gives no number adds zero. The mean divides by the count of the
numbers, and is zero if there are none. -/
def afresh (call : RunningCall) (rows : List Row) : Except Fault Cell := do
  let xs ← (rows.take (call.index + 1)).mapM fun row => (row.get call.column).toNumber
  let numbers ← columnNumbers (rows.take (call.index + 1)) call.column
  let sum := Reduction.runningSum (xs.map numberOrZero)
  .ok (match call.function with
    | .sum => .float sum
    | .mean =>
        if numbers = [] then .int 0 else .float (sum / Binary64.nearestInt numbers.length))

/-- The value of the call, told from the total at its row. -/
def ofTotal (call : RunningCall) (running : Running) : Cell :=
  match call.function with
  | .sum => .float running.total
  | .mean => running.mean

/-- Adding up afresh gives what the total at the row gives. -/
theorem exists_totalAt (call : RunningCall) {rows : List Row}
    (hSummable : Running.IsSummable rows call.column) (hIndex : call.index < rows.length) :
    ∃ running, Running.totalAt rows call.index call.column = .ok running ∧
      call.afresh rows = .ok (call.ofTotal running) := by
  have hFront : Running.IsSummable (rows.take (call.index + 1)) call.column :=
    fun row hRow => hSummable row (List.mem_of_mem_take hRow)
  obtain ⟨xs, hxs, hLength⟩ := hFront.exists_numbers
  have hCount : xs.length = call.index + 1 := by
    rw [hLength, List.length_take]
    omega
  have hTotal : Running.totalAt rows call.index call.column =
      .ok (xs.foldl Running.add default) := by
    rw [Running.totalAt_eq_take hSummable hIndex, Running.totalAt, Running.ofColumn, hxs]
    show Except.ok ((Running.scan default xs)[call.index]?.getD default) = _
    rw [Running.getElem?_scan_last default hCount]
    rfl
  refine ⟨_, hTotal, ?_⟩
  have hSum : (xs.foldl Running.add default).total = Reduction.runningSum (xs.map numberOrZero) :=
    Running.total_foldl_add Binary64.zero_ne_negativeZero xs
  have hNumbers : (xs.foldl Running.add default).count = (xs.filter (!·.isNaN)).length :=
    (Running.count_foldl_add default xs).trans (Nat.zero_add _)
  obtain ⟨function, column, index⟩ := call
  simp only [afresh, columnNumbers, hxs, ofTotal]
  cases function with
  | sum =>
      rw [hSum]
      rfl
  | mean =>
      simp only [Running.mean, hSum, hNumbers, List.length_eq_zero_iff]
      rfl

/-- The call at a row is evaluated to what the total at the row gives. -/
theorem eval_expr (call : RunningCall) (scope : Scope) {calls : Nat} (hCalls : 0 < calls)
    {running : Running} (h : scope.running call.column = .ok running) :
    eval scope calls call.expr = .ok (call.ofTotal running) := by
  obtain ⟨calls, rfl⟩ := Nat.exists_eq_add_one_of_ne_zero (Nat.ne_of_gt hCalls)
  obtain ⟨function, column, index⟩ := call
  have hTotal : scope.running column = .ok running := h
  cases function with
  | sum =>
      show lift (scope.running column) >>= _ = _
      rw [hTotal]
      rfl
  | mean =>
      show lift (scope.running column) >>= _ = _
      rw [hTotal]
      rfl

end RunningCall

/-! ## Totals that are kept -/

namespace Evaluator

/-- What is kept after some calls, one after the other. -/
def after (evaluator : Evaluator) (calls : List RunningCall) : Evaluator :=
  calls.foldl (fun evaluator call => (evaluator.totals call.column).2) evaluator

/-- What is kept is what would be computed from the rows. -/
structure Keeps (evaluator : Evaluator) (rows : List Row) : Prop where
  rows_eq : evaluator.rows = rows
  kept_eq : ∀ column states, evaluator.kept.lookup column = some states →
    Running.ofColumn rows column = .ok states

variable {evaluator : Evaluator} {rows : List Row}

theorem keeps_ofRows (rows : List Row) : (ofRows rows).Keeps rows := ⟨rfl, nofun⟩

/-- The totals of a column are those of the rows, and asking for them leaves them so. -/
theorem Keeps.totals (h : evaluator.Keeps rows) (column : String) :
    (evaluator.totals column).1 = Running.ofColumn rows column ∧
      (evaluator.totals column).2.Keeps rows := by
  obtain ⟨rfl, hKept⟩ := h
  unfold Evaluator.totals
  cases hFound : evaluator.kept.lookup column with
  | some states => exact ⟨(hKept column states hFound).symm, rfl, hKept⟩
  | none =>
      cases hTotals : Running.ofColumn evaluator.rows column with
      | error cause => exact ⟨rfl, rfl, hKept⟩
      | ok states =>
          refine ⟨rfl, rfl, fun other others hOther => ?_⟩
          rw [List.lookup_cons] at hOther
          split at hOther
          · next hSame =>
            cases hOther
            rw [eq_of_beq hSame]
            exact hTotals
          · exact hKept other others hOther

theorem Keeps.after (h : evaluator.Keeps rows) (calls : List RunningCall) :
    (evaluator.after calls).Keeps rows := by
  induction calls generalizing evaluator with
  | nil => exact h
  | cons call calls ih => exact ih (h.totals call.column).2

/-- The calls that were made before make no difference to the value of any expression. -/
theorem evaluate_after (rows : List Row) (before : List RunningCall) (declared : List String)
    (calls : Nat) (expr : Expr) (index : Nat) :
    ((ofRows rows).after before).evaluate declared calls expr index =
      (evaluateRows calls expr rows declared)[index]? := by
  have hKeeps := (keeps_ofRows rows).after before
  have hTotals : (fun column => (((ofRows rows).after before).totals column).1) =
      Running.ofColumn rows :=
    funext fun column => (hKeeps.totals column).1
  rw [evaluate, hKeeps.rows_eq, hTotals, getElem?_evaluateRows]

end Evaluator

/-- **Totals that are kept agree with sums that are made afresh**, if the whole numbers of the
column fit the format. Whatever calls were made before, for whatever columns and rows, a call that
adds the column up to a row gives the sum of its numbers up to there, or that sum divided by their
count. -/
theorem evaluate_eq_afresh {rows : List Row} (call : RunningCall)
    (hFits : ∀ row ∈ rows, ∀ n, row.get call.column = .int n → (Binary64.ofInt? n).isSome)
    (hIndex : call.index < rows.length) (declared : List String) {calls : Nat}
    (hCalls : 0 < calls) :
    ∃ cell, call.afresh rows = .ok cell ∧
      (evaluateRows calls call.expr rows declared)[call.index]? = some (.ok cell) ∧
      ∀ before,
        ((Evaluator.ofRows rows).after before).evaluate declared calls call.expr call.index =
          some (.ok cell) := by
  have hSummable : Running.IsSummable rows call.column := by
    intro row hRow
    cases hCell : row.get call.column with
    | int n => exact @Cell.IsPlain.hasValue_toNumber (.int n) (hFits row hRow n hCell)
    | _ => exact .ok trivial
  obtain ⟨running, hTotal, hAfresh⟩ := call.exists_totalAt hSummable hIndex
  have hValue : (evaluateRows calls call.expr rows declared)[call.index]? =
      some (.ok (call.ofTotal running)) := by
    rw [getElem?_evaluateRows, List.getElem?_eq_getElem hIndex]
    exact congrArg some (call.eval_expr _ hCalls hTotal)
  refine ⟨_, hAfresh, hValue, fun before => ?_⟩
  rw [Evaluator.evaluate_after, hValue]

/-- Numbers between cells that give none, after a negative zero, and a column that has no totals. -/
def interleaved : List Row := [
  Row.ofEntries [("x", .float negativeZero), ("y", .text "1")],
  Row.ofEntries [("x", .text "none"), ("y", .int (10 ^ 400))],
  Row.ofEntries [("y", .float .nan)],
  Row.ofEntries [("x", .text " 0.1 ")], Row.ofEntries [("x", .bool true)],
  Row.ofEntries [("x", .int 2)], Row.ofEntries [("x", .float (.infinite false))]]

/-- Calls that keep totals, also of the column itself, and one that fails. -/
def callsBefore : List RunningCall :=
  [⟨.sum, "y", 0⟩, ⟨.sum, "x", 6⟩, ⟨.mean, "z", 1⟩, ⟨.sum, "x", 0⟩]

theorem evaluate_eq_afresh_interleaved :
    ∃ cell, (RunningCall.mk .mean "x" 5).afresh interleaved = .ok cell ∧
      (evaluateRows callLimit (.call "AVG" [.column "x"]) interleaved [])[5]? = some (.ok cell) ∧
      ((Evaluator.ofRows interleaved).after callsBefore).evaluate [] callLimit
        (.call "AVG" [.column "x"]) 5 = some (.ok cell) ∧
      cell.toText = .ok "0.7000000000000001" := by
  have hFits : ∀ row ∈ interleaved, ∀ n, row.get "x" = .int n → (Binary64.ofInt? n).isSome := by
    have hPlain : ∀ row ∈ interleaved, (row.get "x").IsPlain := by decide +kernel
    intro row hRow n hCell
    have hNumber := hPlain row hRow
    rwa [hCell] at hNumber
  obtain ⟨cell, hAfresh, hValue, hKept⟩ :=
    @evaluate_eq_afresh interleaved ⟨.mean, "x", 5⟩ hFits (by decide) [] callLimit (by decide)
  refine ⟨cell, hAfresh, hValue, hKept callsBefore, ?_⟩
  have hText : ((RunningCall.mk .mean "x" 5).afresh interleaved >>= Cell.toText) =
      .ok "0.7000000000000001" := by
    decide +kernel
  rwa [hAfresh] at hText

end TableFlow.Formula
