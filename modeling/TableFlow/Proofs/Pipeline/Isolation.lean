import TableFlow.Proofs.Formula.Levels
import TableFlow.Proofs.Formula.Printing
import TableFlow.Proofs.Formula.Reads
import TableFlow.Proofs.Formula.Running
import TableFlow.Proofs.Pipeline.Containment

/-!
# A formula reaches only the formulas that name it

Columns are computed one after the other, and each formula sees what the ones in front of it have
computed. Still, a formula that no later one names is on its own: with any other text in its place
the same rows come out, and they differ in its column alone.

Two tables that differ in one column only keep doing so while columns are computed, as long as no
formula names that column. One formula at a time, this is because the value of an expression depends
on the columns that it names, and because a formula fills its own column only.

Taking a formula away is more than that, since every formula in front of it then has one call more.
This makes no difference to those that come to an end as it is, and it may give a value to others. A
chain that is too long gives no rows at all.

## Main results

* `Formula.evaluateRows_congr`: the values of an expression depend on the columns that it names.
* `DifferIn.filled`: what one computed column preserves.
* `FormulaColumn.fillChain_of_finishes`: more calls change nothing where each formula ends.
* `Configuration.run_isolated`: taking a formula away, or replacing it, changes one column.
-/

namespace TableFlow

/-- The cells under a name, row by row; a row that does not have the column has none. -/
def cellsUnder (rows : List Row) (column : String) : List (Option Cell) :=
  rows.map fun row => row.get? column

theorem getElem?_cellsUnder (rows : List Row) (column : String) (index : Nat) :
    (cellsUnder rows column)[index]? = rows[index]?.map fun row => row.get? column := by
  unfold cellsUnder
  rw [List.getElem?_map]

theorem map_get_eq_cellsUnder (rows : List Row) (column : String) :
    rows.map (·.get column) = (cellsUnder rows column).map fun cell? => cell?.getD .missing := by
  unfold cellsUnder
  rw [List.map_map]
  rfl

/-! ## What the values of an expression depend on -/

namespace Formula

/-- Two tables that have the same cells in the columns that an expression names give it the same
values, at all rows. -/
theorem evaluateRows_congr {e : Expr} {rows rows' : List Row} (hLength : rows.length = rows'.length)
    (hCells : ∀ name ∈ e.columns, cellsUnder rows name = cellsUnder rows' name) (calls : Nat)
    (declared : List String) :
    evaluateRows calls e rows declared = evaluateRows calls e rows' declared := by
  apply List.ext_getElem?
  intro index
  rw [getElem?_evaluateRows, getElem?_evaluateRows]
  by_cases hIndex : index < rows.length
  · have hIndex' : index < rows'.length := hLength ▸ hIndex
    rw [List.getElem?_eq_getElem hIndex, List.getElem?_eq_getElem hIndex']
    have hAgree : Scope.AgreeOn e
        (Scope.at declared (Running.ofColumn rows) index rows[index])
        (Scope.at declared (Running.ofColumn rows') index rows'[index]) := by
      constructor
      · rfl
      · intro name hName
        have hAt := congrArg (·[index]?) (hCells name hName)
        rw [getElem?_cellsUnder, getElem?_cellsUnder, List.getElem?_eq_getElem hIndex,
          List.getElem?_eq_getElem hIndex'] at hAt
        exact Option.some.inj hAt
      · intro name hName
        have hCell : rows.map (·.get name) = rows'.map (·.get name) := by
          rw [map_get_eq_cellsUnder, map_get_eq_cellsUnder,
            hCells name (Expr.summedColumns_subset e hName)]
        simp only [Scope.at, Running.ofColumn_congr hCell]
      · intro _
        rfl
    rw [Option.map_some, Option.map_some, eval_congr hAgree calls]
  · have hIndex' : ¬ index < rows'.length := hLength ▸ hIndex
    rw [List.getElem?_eq_none (Nat.le_of_not_lt hIndex),
      List.getElem?_eq_none (Nat.le_of_not_lt hIndex'), Option.map_none, Option.map_none]

/-- The columns that a text names as a formula; one that cannot be read names none. -/
def columnsNamed (text : String) : List String :=
  match read callLimit text with
  | .error _ => []
  | .ok e => e.columns

/-- A text that is read names the columns of the expression, however many calls were left. -/
theorem columnsNamed_of_read {calls : Nat} {text : String} {e : Expr} (hCalls : calls ≤ callLimit)
    (h : read calls text = .ok e) : columnsNamed text = e.columns := by
  have hRead := (kept_read hCalls text).eq_of_ne (by rw [h]; nofun)
  rw [columnsNamed, hRead, h]

/-- Reading the text and evaluating it at each row comes to an end by the calls that are left. -/
def finishes (calls : Nat) (text : String) (declared : List String) (rows : List Row) : Bool :=
  match read calls text with
  | .error (.parse .tooDeep) => false
  | .error _ => true
  | .ok e => (evaluateRows calls e rows declared).all fun
      | .error .tooDeep => false
      | _ => true

theorem kept_read_of_finishes {calls more : Nat} {text : String} {declared : List String}
    {rows : List Row} (h : finishes calls text declared rows) (hMore : calls ≤ more) :
    read more text = read calls text := by
  refine (kept_read hMore text).eq_of_ne ?_
  intro hStopped
  rw [finishes, hStopped] at h
  cases h

/-- Where evaluation comes to an end at each row, more calls give the same values. -/
theorem evaluateRows_of_finishes {calls more : Nat} {text : String} {e : Expr}
    {declared : List String} {rows : List Row} (h : finishes calls text declared rows)
    (hRead : read calls text = .ok e) (hMore : calls ≤ more) :
    evaluateRows more e rows declared = evaluateRows calls e rows declared := by
  rw [finishes, hRead] at h
  apply List.ext_getElem?
  intro index
  have hValue : ∀ value ∈ (evaluateRows calls e rows declared)[index]?,
      value ≠ .error .tooDeep := by
    rintro value hValue rfl
    have hEnds := List.all_eq_true.1 h _ (List.mem_of_getElem? hValue)
    cases hEnds
  rw [getElem?_evaluateRows] at hValue ⊢
  rw [getElem?_evaluateRows]
  apply Option.map_congr
  intro row hRow
  refine (kept_eval _ hMore e).eq_of_ne (hValue _ ?_)
  rw [Option.mem_def, Option.mem_def.1 hRow, Option.map_some]

end Formula

/-! ## Tables that differ in one column -/

/-- Two tables have the same rows up to the cells under one name. -/
structure DifferIn (name : String) (rows rows' : List Row) : Prop where
  length : rows.length = rows'.length
  cells : ∀ other, other ≠ name → cellsUnder rows other = cellsUnder rows' other

namespace FormulaColumn

variable {calls : Nat} {text : String} {declared : List String} {before after rows rows' : List Row}
  {name : String}

/-- Each row of a filled table is a row of the table before, with one cell set. -/
theorem Fills.getElem?_after (h : Fills name text declared calls before after) (index : Nat) :
    after[index]? = before[index]?.map fun row =>
      row.set name ((valueAt? calls text declared before index).getD .missing) := by
  cases hRow : before[index]? with
  | some row => exact h.row index row hRow
  | none =>
      have hOutside : after.length ≤ index := h.length ▸ List.getElem?_eq_none_iff.1 hRow
      exact List.getElem?_eq_none hOutside

/-- The cells of a filled column come from the text. -/
theorem Fills.cellsUnder_self (h : Fills name text declared calls before after) :
    cellsUnder after name = (List.range before.length).map fun index =>
      some ((valueAt? calls text declared before index).getD .missing) := by
  apply List.ext_getElem?
  intro index
  rw [getElem?_cellsUnder, h.getElem?_after, Option.map_map, List.getElem?_map]
  by_cases hIndex : index < before.length
  · rw [List.getElem?_eq_getElem hIndex, List.getElem?_range hIndex]
    exact congrArg some (Row.get?_set_self _ _ _)
  · rw [List.getElem?_eq_none (Nat.le_of_not_lt hIndex),
      List.getElem?_eq_none (by simpa using hIndex)]
    rfl

/-- Filling a column leaves the others. -/
theorem Fills.differIn (h : Fills name text declared calls before after) :
    DifferIn name before after where
  length := h.length.symm
  cells other hOther := by
    apply List.ext_getElem?
    intro index
    rw [getElem?_cellsUnder, getElem?_cellsUnder, h.getElem?_after, Option.map_map]
    apply Option.map_congr
    intro row _
    exact (Row.get?_set_of_ne row _ hOther).symm

/-- A text that does not name the column in which two tables differ has the same values in both. -/
theorem valueAt?_congr (hCalls : calls ≤ callLimit) (hRows : DifferIn name rows rows')
    (hName : name ∉ Formula.columnsNamed text) (index : Nat) :
    valueAt? calls text declared rows index = valueAt? calls text declared rows' index := by
  unfold valueAt?
  cases hRead : Formula.read calls text with
  | error err => rfl
  | ok e =>
      rw [Formula.columnsNamed_of_read hCalls hRead] at hName
      have hValues : Formula.evaluateRows calls e rows declared =
          Formula.evaluateRows calls e rows' declared := by
        refine Formula.evaluateRows_congr hRows.length (fun other hOther => ?_) calls declared
        apply hRows.cells
        intro hSame
        exact hName (hSame ▸ hOther)
      simp only [hValues]

/-- A text that comes to an end fills its column alike by more calls. -/
theorem filled_of_finishes {more : Nat} (h : Formula.finishes calls text declared rows)
    (hMore : calls ≤ more) :
    filled name text declared more rows = filled name text declared calls rows := by
  have hCells : cells more text declared rows = cells calls text declared rows := by
    unfold cells
    rw [Formula.kept_read_of_finishes h hMore]
    cases hRead : Formula.read calls text with
    | error err => rfl
    | ok e => simp only [Formula.evaluateRows_of_finishes h hRead hMore]
  rw [filled, hCells, filled]

end FormulaColumn

namespace DifferIn

variable {name : String} {rows rows' : List Row}

theorem symm (h : DifferIn name rows rows') : DifferIn name rows' rows where
  length := h.length.symm
  cells other hOther := (h.cells other hOther).symm

theorem trans {rows'' : List Row} (h : DifferIn name rows rows') (h' : DifferIn name rows' rows'') :
    DifferIn name rows rows'' where
  length := h.length.trans h'.length
  cells other hOther := (h.cells other hOther).trans (h'.cells other hOther)

/-- One more computed column keeps two tables apart in one column only, if its text does not name
that column. -/
theorem filled {calls : Nat} (hCalls : calls ≤ callLimit) {own text : String}
    (declared : List String) (h : DifferIn name rows rows')
    (hName : name ∉ Formula.columnsNamed text) :
    DifferIn name (FormulaColumn.filled own text declared calls rows)
      (FormulaColumn.filled own text declared calls rows') := by
  have hFills := FormulaColumn.fills_filled calls text declared rows own
  have hFills' := FormulaColumn.fills_filled calls text declared rows' own
  constructor
  · rw [hFills.length, hFills'.length, h.length]
  · intro other hOther
    by_cases hOwn : other = own
    · have hValues : ∀ index, FormulaColumn.valueAt? calls text declared rows index =
          FormulaColumn.valueAt? calls text declared rows' index :=
        FormulaColumn.valueAt?_congr hCalls h hName
      rw [hOwn, hFills.cellsUnder_self, hFills'.cellsUnder_self, h.length]
      simp only [hValues]
    · calc cellsUnder (FormulaColumn.filled own text declared calls rows) other
          = cellsUnder rows other := (hFills.differIn.cells other hOwn).symm
        _ = cellsUnder rows' other := h.cells other hOther
        _ = cellsUnder (FormulaColumn.filled own text declared calls rows') other :=
            hFills'.differIn.cells other hOwn

end DifferIn

/-! ## Chains of formulas -/

/-- Formulas one after the other, each given by the name of its column and its text. -/
abbrev Chain : Type := List (String × String)

namespace FormulaColumn

/-- The rows that a chain makes of others, with so many more formulas behind it. -/
def fillChain (declared : List String) (later : Nat) : Chain → List Row → List Row
  | [], rows => rows
  | (name, text) :: chain, rows =>
      fillChain declared later chain
        (filled name text declared (Configuration.callsBefore (chain.length + later)) rows)

/-- Each formula of a chain comes to an end, with so many more formulas behind the chain. -/
def chainFinishes (declared : List String) (later : Nat) : Chain → List Row → Bool
  | [], _ => true
  | (name, text) :: chain, rows =>
      let calls := Configuration.callsBefore (chain.length + later)
      Formula.finishes calls text declared rows &&
        chainFinishes declared later chain (filled name text declared calls rows)

variable {declared : List String} {later : Nat}

theorem callsBefore_le (later : Nat) : Configuration.callsBefore later ≤ callLimit :=
  Nat.sub_le _ _

theorem fillChain_append (front back : Chain) (rows : List Row) :
    fillChain declared later (front ++ back) rows =
      fillChain declared later back (fillChain declared (back.length + later) front rows) := by
  induction front generalizing rows with
  | nil => rfl
  | cons formula front ih =>
      rw [List.cons_append, fillChain, fillChain, ih, List.length_append, Nat.add_assoc]

/-- Formulas that do not name the column in which two tables differ keep them apart in that column
only. -/
theorem differIn_fillChain {name : String} {chain : Chain}
    (hUnread : ∀ formula ∈ chain, name ∉ Formula.columnsNamed formula.2) {rows rows' : List Row}
    (h : DifferIn name rows rows') :
    DifferIn name (fillChain declared later chain rows) (fillChain declared later chain rows') := by
  induction chain generalizing rows rows' with
  | nil => exact h
  | cons formula chain ih =>
      obtain ⟨hFirst, hRest⟩ := List.forall_mem_cons.1 hUnread
      exact ih hRest (h.filled (callsBefore_le _) declared hFirst)

/-- Where each formula of a chain ends, fewer formulas behind it make no difference. -/
theorem fillChain_of_finishes {fewer : Nat} (hFewer : fewer ≤ later) {chain : Chain}
    {rows : List Row} (h : chainFinishes declared later chain rows) :
    fillChain declared fewer chain rows = fillChain declared later chain rows := by
  induction chain generalizing rows with
  | nil => rfl
  | cons formula chain ih =>
      obtain ⟨hFirst, hRest⟩ := Bool.and_eq_true_iff.1 h
      have hMore : Configuration.callsBefore (chain.length + later) ≤
          Configuration.callsBefore (chain.length + fewer) := by
        unfold Configuration.callsBefore
        omega
      rw [fillChain, fillChain, filled_of_finishes hFirst hMore]
      exact ih hRest

end FormulaColumn

namespace Configuration

open FormulaColumn

/-- The configuration of a chain. -/
def ofChain (chain : Chain) : Configuration :=
  { formulas := chain.map fun formula => .ofText formula.1 formula.2 }

theorem runAll_ofChain (declared : List String) (chain : Chain) (rows : List Row) :
    Stage.runAll ((ofChain chain).stages declared) rows =
      .ok (fillChain declared 0 chain rows) := by
  have hStages : ∀ rows, Stage.runAll (formulaStages declared (ofChain chain).formulas) rows =
      .ok (fillChain declared 0 chain rows) := by
    induction chain with
    | nil => exact fun rows => rfl
    | cons formula chain ih =>
        intro rows
        have hLength : (ofChain chain).formulas.length = chain.length := List.length_map _
        show Stage.runAll (formulaStages declared (ofChain chain).formulas)
          (filled formula.1 formula.2 declared
            (callsBefore (ofChain chain).formulas.length) rows) = _
        rw [ih, hLength, fillChain, Nat.add_zero]
  exact hStages rows

/-- A chain gives rows unless it is too long. -/
theorem run_ofChain (declared : List String) (chain : Chain) (rows : List Row) :
    (ofChain chain).run declared rows =
      if callLimit < chain.length then .error .tooDeep
      else .ok (fillChain declared 0 chain rows) := by
  have hLength : (ofChain chain).formulas.length = chain.length := List.length_map _
  rw [run, hLength, runAll_ofChain]

/-- **Formulas are isolated.** Suppose that no later formula names the column that a formula
computes. If the chain is not too long, it gives rows. So does the chain with any other text in the
place of the formula, and the rows are the same up to the cells of that column. The same holds for
the chain without the formula if each formula in front of it comes to an end. A chain that is too
long gives no rows, whatever the text of the formula is. -/
theorem run_isolated (declared : List String) (rows : List Row) (front back : Chain)
    (name text : String) (hUnread : ∀ formula ∈ back, name ∉ Formula.columnsNamed formula.2) :
    (front.length + back.length < callLimit → ∃ whole,
      (ofChain (front ++ (name, text) :: back)).run declared rows = .ok whole ∧
        (∀ other, Succeeds ((ofChain (front ++ (name, other) :: back)).run declared rows)
          (DifferIn name whole)) ∧
        (chainFinishes declared (back.length + 1) front rows →
          Succeeds ((ofChain (front ++ back)).run declared rows) (DifferIn name whole))) ∧
      (callLimit ≤ front.length + back.length → ∀ other,
        (ofChain (front ++ (name, other) :: back)).run declared rows = .error .tooDeep) := by
  have hLength : ∀ other,
      (front ++ (name, other) :: back).length = front.length + back.length + 1 :=
    fun other => List.length_append
  refine ⟨fun hFits => ?_, fun hLong other => ?_⟩
  · let before := fillChain declared (back.length + 1) front rows
    let after other :=
      fillChain declared 0 back (filled name other declared (callsBefore back.length) before)
    have hRun : ∀ other, (ofChain (front ++ (name, other) :: back)).run declared rows =
        .ok (after other) := by
      intro other
      rw [run_ofChain, hLength, if_neg (by omega), fillChain_append, fillChain]
      rfl
    have hFilled : ∀ other,
        DifferIn name before (filled name other declared (callsBefore back.length) before) :=
      fun other => (fills_filled _ other declared before name).differIn
    refine ⟨after text, hRun text, fun other => ?_, fun hFinishes => ?_⟩
    · rw [hRun]
      exact .ok (differIn_fillChain hUnread ((hFilled text).symm.trans (hFilled other)))
    · have hSame : fillChain declared back.length front rows = before :=
        fillChain_of_finishes (Nat.le_succ _) hFinishes
      rw [run_ofChain, List.length_append, if_neg (by omega), fillChain_append, Nat.add_zero, hSame]
      exact .ok (differIn_fillChain hUnread (hFilled text).symm)
  · rw [run_ofChain, hLength, if_pos (by omega)]

/-- Formulas in front of another one and behind it. Those behind do not name `share`: one reads a
column of the front, and one cannot be read at all. -/
def surrounded : Chain × Chain :=
  ([("b", "x + 1"), ("c", "SUM(x)")], [("d", "b * 2"), ("e", "c +")])

/-- A column in the middle of a chain, which reads what stands in front of it. -/
theorem run_isolated_surrounded :
    ∃ whole, (ofChain (surrounded.1 ++ ("share", "c / x") :: surrounded.2)).run []
        [Row.empty.set "x" (.int 2)] = .ok whole ∧
      (∀ other, Succeeds ((ofChain (surrounded.1 ++ ("share", other) :: surrounded.2)).run []
        [Row.empty.set "x" (.int 2)]) (DifferIn "share" whole)) ∧
      Succeeds ((ofChain (surrounded.1 ++ surrounded.2)).run [] [Row.empty.set "x" (.int 2)])
        (DifferIn "share" whole) := by
  have hUnread : ∀ formula ∈ surrounded.2, "share" ∉ Formula.columnsNamed formula.2 := by
    decide +kernel
  obtain ⟨whole, hWhole, hReplaced, hRemoved⟩ :=
    (run_isolated [] [Row.empty.set "x" (.int 2)] surrounded.1 surrounded.2 "share" "c / x"
      hUnread).1 (by decide)
  exact ⟨whole, hWhole, hReplaced, hRemoved (by decide +kernel)⟩

/-! ### Chains that are not isolated -/

/-- So many formulas for columns of their own, each of which is one. -/
def ones (count : Nat) : Chain :=
  (List.range count).map fun index => (String.ofList (List.replicate index 'f'), "1")

theorem nodup_ones (count : Nat) : ((ones count).map Prod.fst).Nodup := by
  rw [ones, List.map_map, List.Nodup, List.pairwise_map]
  refine List.nodup_range.imp fun hDifferent hName => hDifferent ?_
  simpa using congrArg String.length hName

theorem ones_succ (count : Nat) :
    ones (count + 1) = ones count ++ [(String.ofList (List.replicate count 'f'), "1")] := by
  rw [ones, List.range_succ, List.map_append]
  rfl

/-- A formula that names no column may be one too many, and then no rows are left. -/
theorem exists_chain_without_rows :
    ¬ ∀ (declared : List String) (rows : List Row) (front back : Chain) (name text : String),
      ((front ++ (name, text) :: back).map Prod.fst).Nodup →
        (∀ formula ∈ back, name ∉ Formula.columnsNamed formula.2) →
          ∃ whole, (ofChain (front ++ (name, text) :: back)).run declared rows = .ok whole ∧
            Succeeds ((ofChain (front ++ back)).run declared rows) (DifferIn name whole) := by
  intro h
  have hWhole := h [] [Row.empty] (ones callLimit) [] _ "1"
    (ones_succ callLimit ▸ nodup_ones (callLimit + 1)) nofun
  obtain ⟨whole, hRun, -⟩ := hWhole
  have hLong : callLimit < (ones (callLimit + 1)).length := by
    rw [ones, List.length_map, List.length_range]
    exact Nat.lt_succ_self _
  rw [← ones_succ, run_ofChain, if_pos hLong] at hRun
  cases hRun

/-- One, with so many signs in front of it. -/
def signed : Nat → Formula.Expr
  | 0 => .literal (.int 1)
  | signs + 1 => .unary "-" (signed signs)

theorem isWritable_signed (signs : Nat) : (signed signs).IsWritable := by
  induction signs with
  | zero => exact .literal (@Formula.Constant.IsWritable.whole 1 (by decide))
  | succ signs ih => exact .unary (.inl rfl) ih

/-- Each sign takes one call. -/
theorem exists_eval_signed (scope : Formula.Scope) {signs calls : Nat} (h : signs < calls) :
    ∃ n, Formula.eval scope calls (signed signs) = .ok (.int n) := by
  induction signs generalizing calls with
  | zero =>
      obtain ⟨calls, rfl⟩ : ∃ n, calls = n + 1 := ⟨calls - 1, by omega⟩
      exact ⟨1, by rw [Formula.eval_succ]; rfl⟩
  | succ signs ih =>
      obtain ⟨calls, rfl⟩ : ∃ n, calls = n + 1 := ⟨calls - 1, by omega⟩
      obtain ⟨n, hOperand⟩ := ih (Nat.succ_lt_succ_iff.1 h)
      refine ⟨-n, ?_⟩
      rw [Formula.eval_succ, signed]
      simp only [Formula.Eval.step, Nat.sub_zero, hOperand]
      rfl

/-- As many signs as a formula without others behind it may have. -/
def manySigns : Nat := callLimit - 9

theorem read_signed (calls : Nat) : Formula.read calls (signed manySigns).text =
    if callsBefore 0 ≤ calls then .ok (signed manySigns) else .error (.parse .tooDeep) := by
  have hNesting : (signed manySigns).nesting = callsBefore 0 := by decide +kernel
  rw [← hNesting]
  exact (Formula.writes (isWritable_signed manySigns)).whole.read_textOfTokens calls

/-- Without a formula that names no column, an earlier formula may get the call that it lacks. -/
theorem exists_chain_that_exhausts :
    ¬ ∀ (declared : List String) (rows : List Row) (front back : Chain) (name text : String),
      ((front ++ (name, text) :: back).map Prod.fst).Nodup →
        (∀ formula ∈ back, name ∉ Formula.columnsNamed formula.2) →
          ∀ whole rest, (ofChain (front ++ (name, text) :: back)).run declared rows = .ok whole →
            (ofChain (front ++ back)).run declared rows = .ok rest → DifferIn name whole rest := by
  intro h
  let longText := (signed manySigns).text
  have hDiffer : DifferIn "b"
      (filled "b" "1" [] (callsBefore 0) (filled "a" longText [] (callsBefore 1) [Row.empty]))
      (filled "a" longText [] (callsBefore 0) [Row.empty]) :=
    h [] [Row.empty] [("a", longText)] [] "b" "1" (by decide) nofun _ _
      (run_ofChain [] [("a", longText), ("b", "1")] _) (run_ofChain [] [("a", longText)] _)
  have hCells : ∀ calls, cellsUnder (filled "a" longText [] calls [Row.empty]) "a" =
      [some ((valueAt? calls longText [] [Row.empty] 0).getD .missing)] :=
    fun calls => (fills_filled calls longText [] [Row.empty] "a").cellsUnder_self
  have hStopped : valueAt? (callsBefore 1) longText [] [Row.empty] 0 = none := by
    rw [valueAt?, read_signed, if_neg (by decide)]
  obtain ⟨n, hValue⟩ := exists_eval_signed
    (Formula.Scope.at [] (Formula.Running.ofColumn [Row.empty]) 0 Row.empty)
    (show manySigns < callsBefore 0 by decide)
  have hFinished : valueAt? (callsBefore 0) longText [] [Row.empty] 0 = some (.int n) := by
    rw [valueAt?, read_signed, if_pos (Nat.le_refl _)]
    dsimp only
    rw [Formula.getElem?_evaluateRows, List.getElem?_cons_zero, Option.map_some, hValue]
    rfl
  have hSame := hDiffer.cells "a" (by decide)
  rw [← (fills_filled (callsBefore 0) "1" [] _ "b").differIn.cells "a" (by decide), hCells, hCells,
    hStopped, hFinished] at hSame
  cases hSame

end Configuration

end TableFlow
