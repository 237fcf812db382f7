import TableFlow.Proofs.Cell.Plain
import TableFlow.Proofs.Formula.Levels
import TableFlow.Proofs.Formula.Running

/-!
# Conditions that are comparisons

A comparison compares the values of its sides: texts as texts, booleans as booleans, and a missing
value with nothing but a missing one. As the condition of `IF` it compares the numbers of its sides
instead, takes a column without asking whether it is known, and is false where it has no value.

As soon as one side is a number, the two ways agree. A value that gives no number is unequal to
every number and in no order with it, and this is what comparing with NaN comes to.

## Main results

* `compare_of_isNumber`: comparing a number with any value is comparing two numbers.
* `Eval.kept_condition_of_compare`: the condition is what the comparison is.
* `conditional_agrees`: the value of a conditional at the rows of a table.
-/

namespace TableFlow.Formula

open Binary64 (compareRanks)

/-! ## Comparing a number with any value -/

section

variable {a b : Cell} {x y : Binary64}

theorem compareRanks_nan_left (relation : Int → Int → Bool) (y : Binary64) :
    compareRanks relation .nan y = false := rfl

theorem compareRanks_nan_right (relation : Int → Int → Bool) (x : Binary64) :
    compareRanks relation x .nan = false := by
  cases x <;> rfl

/-- No relation of order holds for NaN. -/
theorem holds_eq_false_of_isNaN {x y : Binary64} (h : x = .nan ∨ y = .nan)
    (relation : OrderRelation) : relation.holds x y = false := by
  rcases h with rfl | rfl <;> cases relation <;>
    simp [OrderRelation.holds, Binary64.lt, Binary64.le, compareRanks_nan_left,
      compareRanks_nan_right]

/-- A missing value gives no number. -/
theorem eq_nan_of_isMissing (hMissing : a.isMissing) (h : a.toNumber = .ok x) : x = .nan := by
  cases a with
  | missing => exact (Except.ok.inj h).symm
  | _ => cases hMissing

theorem areEqual_of_isNumber (hNumber : a.isNumber ∨ b.isNumber) (hx : a.toNumber = .ok x)
    (hy : b.toNumber = .ok y) : areEqual a b = .ok (x.numEq y) := by
  unfold areEqual
  split
  · have hMissing : b.isMissing = false := by
      cases b <;> simp_all [Cell.isNumber, Cell.isMissing]
    rw [eq_nan_of_isMissing rfl hx, hMissing]
    rfl
  · rw [eq_nan_of_isMissing rfl hy]
    exact congrArg Except.ok (compareRanks_nan_right _ x).symm
  · simp [Cell.isNumber] at hNumber
  · simp [Cell.isNumber] at hNumber
  · rw [hx, hy]
    rfl

/-- A number is in the order with a value where the two numbers are, if the symbol is known. -/
theorem inOrder_of_isNumber (hNumber : a.isNumber ∨ b.isNumber) (hx : a.toNumber = .ok x)
    (hy : b.toNumber = .ok y) {symbol : String} {relation : OrderRelation}
    (hSymbol : OrderRelation.ofSymbol? symbol = some relation) :
    inOrder symbol a b = .ok (relation.holds x y) := by
  unfold inOrder
  split
  · next hMissing =>
    rw [Bool.or_eq_true] at hMissing
    have hNaN : x = .nan ∨ y = .nan :=
      hMissing.imp (fun h => eq_nan_of_isMissing h hx) fun h => eq_nan_of_isMissing h hy
    rw [holds_eq_false_of_isNaN hNaN]
  · split
    · simp [Cell.isNumber] at hNumber
    · rw [hx, hy]
      simp only [lift, Except.mapError, bind, Except.bind, hSymbol]

/-- A symbol that is not known is refused, except beside a missing value. -/
theorem inOrder_of_unknown (hx : a.toNumber = .ok x) (hy : b.toNumber = .ok y) {symbol : String}
    (hSymbol : OrderRelation.ofSymbol? symbol = none) :
    inOrder symbol a b = if a.isMissing || b.isMissing then .ok false
      else .error (.refused ("Unsupported comparison: " ++ symbol)) := by
  unfold inOrder
  split
  · rfl
  · split
    · simp only [hSymbol]
    · rw [hx, hy]
      simp only [lift, Except.mapError, bind, Except.bind, hSymbol]

/-- Comparing a number with any value is comparing two numbers. A symbol that is not known may hold
for nothing, and is refused between numbers. -/
theorem compare_of_isNumber (hNumber : a.isNumber ∨ b.isNumber) (hx : a.toNumber = .ok x)
    (hy : b.toNumber = .ok y) {symbol : String} {holds : Bool}
    (h : compare symbol a b = .ok holds) :
    compare symbol (.float x) (.float y) = .ok holds ∨
      holds = false ∧ ∃ message,
        compare symbol (.float x) (.float y) = .error (.refused message) := by
  have hEqual : areEqual a b = areEqual (.float x) (.float y) :=
    areEqual_of_isNumber hNumber hx hy
  unfold compare at h ⊢
  rw [hEqual] at h
  by_cases hSame : symbol = "=" ∨ symbol = "=="
  · left
    rw [if_pos hSame] at h ⊢
    exact h
  · rw [if_neg hSame] at h ⊢
    by_cases hOther : symbol = "!=" ∨ symbol = "<>"
    · left
      rw [if_pos hOther] at h ⊢
      exact h
    · rw [if_neg hOther] at h ⊢
      cases hSymbol : OrderRelation.ofSymbol? symbol with
      | some relation =>
          left
          rw [inOrder_of_isNumber hNumber hx hy hSymbol] at h
          rw [← h]
          exact inOrder_of_isNumber (a := .float x) (b := .float y) (.inl rfl) rfl rfl hSymbol
      | none =>
          right
          rw [inOrder_of_unknown hx hy hSymbol] at h
          split at h
          · have hRefused := inOrder_of_unknown (a := .float x) (b := .float y) rfl rfl hSymbol
            exact ⟨(Except.ok.inj h).symm, _, hRefused⟩
          · cases h

end

/-! ## Conditions -/

namespace Eval

variable {scope : Scope} {calls fewer : Nat} {e left right : Expr} {a b : Cell} {x y : Binary64}

/-- A column that has a value has it also if nobody asks whether the column is known. -/
theorem kept_laxArgument_of_eval (h : eval scope calls e = .ok a) (hFewer : fewer ≤ calls) :
    Kept .tooDeep (laxArgument scope (eval scope fewer) e) (.ok a) := by
  cases e with
  | column name =>
      cases calls with
      | zero => cases h
      | succ calls =>
          have hColumn : column scope name = .ok a := h
          right
          unfold column at hColumn
          simp only [laxArgument, Row.get]
          split at hColumn
          · next cell hCell =>
            rw [hCell]
            exact hColumn.symm
          · next hNone =>
            split at hColumn
            · rw [hNone]
              exact hColumn.symm
            · cases hColumn
  | _ => exact h ▸ kept_eval scope hFewer _

theorem kept_conditionNumber_of_eval (h : eval scope calls e = .ok a) (hFewer : fewer ≤ calls)
    (hx : a.toNumber = .ok x) :
    Kept .tooDeep (conditionNumber scope (eval scope fewer) e) (.ok (.float x)) := by
  have hNumber : (Except.ok a >>= fun cell => lift cell.toNumber >>= fun x => .ok (Cell.float x)) =
      .ok (.float x) := by
    show (lift a.toNumber >>= fun x => .ok (Cell.float x)) = _
    rw [hx]
    rfl
  rw [← hNumber]
  exact (kept_laxArgument_of_eval h hFewer).bind fun _ => .refl _

/-- The condition is what the comparison is, unless it is nested too deeply. -/
theorem kept_condition_of_compare (hLeft : eval scope calls left = .ok a)
    (hRight : eval scope calls right = .ok b) (hNumber : a.isNumber ∨ b.isNumber)
    (hx : a.toNumber = .ok x) (hy : b.toNumber = .ok y) {symbol : String} {holds : Bool}
    (h : compare symbol a b = .ok holds) :
    Kept .tooDeep (condition scope (fun between => eval scope (calls - between))
      (.comparison symbol left right)) (.ok holds) := by
  have hValue : Kept .tooDeep (conditionValue scope (fun between => eval scope (calls - between))
      (.comparison symbol left right)) (compare symbol (.float x) (.float y)) := by
    have hFewer : calls - 3 ≤ calls := Nat.sub_le calls 3
    exact (kept_conditionNumber_of_eval hLeft hFewer hx).bind fun _ =>
      (kept_conditionNumber_of_eval hRight hFewer hy).bind fun _ => .refl _
  unfold condition
  rcases hValue with hStopped | hSame
  · left
    rw [hStopped]
  · right
    rw [← hSame]
    rcases compare_of_isNumber hNumber hx hy h with hHolds | ⟨rfl, message, hRefused⟩
    · rw [hHolds]
    · rw [hRefused]

end Eval

/-- The expression that chooses one of two others. -/
def conditional (test whenTrue whenFalse : Expr) : Expr :=
  .call "IF" [test, whenTrue, whenFalse]

section

variable {scope : Scope} {calls : Nat} {left right : Expr} {a b alone : Cell} {symbol : String}

/-- A conditional with a comparison that has a value goes on with one of its branches. -/
theorem kept_conditional (hLeft : eval scope calls left = .ok a)
    (hRight : eval scope calls right = .ok b) (hNumber : a.isNumber ∨ b.isNumber)
    (ha : HasValue a.toNumber) (hb : HasValue b.toNumber) {holds : Bool}
    (h : compare symbol a b = .ok holds) (whenTrue whenFalse : Expr) :
    Kept .tooDeep
      (eval scope (calls + 1) (conditional (.comparison symbol left right) whenTrue whenFalse))
      (eval scope (calls + 1) (if holds then whenTrue else whenFalse)) := by
  obtain ⟨x, hx, -⟩ := ha
  obtain ⟨y, hy, -⟩ := hb
  have hBranch : Kept .tooDeep
      (eval scope (calls + 1) (conditional (.comparison symbol left right) whenTrue whenFalse))
      (eval scope (calls - 1) (if holds then whenTrue else whenFalse)) := by
    rw [eval_succ]
    exact (Eval.kept_condition_of_compare hLeft hRight hNumber hx hy h).bind fun _ => .refl _
  exact hBranch.trans (kept_eval scope (by omega) _)

/-- A comparison has a value where its sides are compared. -/
theorem eval_comparison (hLeft : eval scope calls left = .ok a)
    (hRight : eval scope calls right = .ok b) {holds : Bool} (h : compare symbol a b = .ok holds) :
    eval scope (calls + 1) (.comparison symbol left right) = .ok (.bool holds) := by
  rw [eval_succ]
  refine bind_eq_ok_iff.2 ⟨a, hLeft, bind_eq_ok_iff.2 ⟨b, hRight, ?_⟩⟩
  exact bind_eq_ok_iff.2 ⟨holds, h, rfl⟩

/-- The sides of a comparison have the values that they have alone. -/
theorem exists_compare_of_eval (hLeft : eval scope (calls + 1) left = .ok a)
    (hRight : eval scope (calls + 1) right = .ok b)
    (h : eval scope (calls + 1) (.comparison symbol left right) = .ok alone) :
    eval scope calls left = .ok a ∧ eval scope calls right = .ok b ∧
      ∃ holds, compare symbol a b = .ok holds ∧ alone = .bool holds := by
  rw [eval_succ] at h
  obtain ⟨a', hLeft', hRest⟩ := bind_eq_ok_iff.1 h
  obtain ⟨b', hRight', hCompared⟩ := bind_eq_ok_iff.1 hRest
  obtain ⟨holds, hCompare, hHolds⟩ := bind_eq_ok_iff.1 hCompared
  have hSame : ∀ {e : Expr} {cell cell' : Cell}, eval scope calls e = .ok cell' →
      eval scope (calls + 1) e = .ok cell → cell' = cell := by
    intro e cell cell' hFewer hMore
    have hKept := (kept_eval scope (Nat.le_succ calls) e).eq_of_ne (by simp [hFewer])
    exact Except.ok.inj (hFewer.symm.trans (hKept.symm.trans hMore))
  cases hSame hLeft' hLeft
  cases hSame hRight' hRight
  exact ⟨hLeft', hRight', holds, hCompare, (Except.ok.inj hHolds).symm⟩

end

/-! ## Conditionals at rows -/

/-- **A comparison is the same condition as it is a value**, if one of its sides is a number. Where
the comparison alone has a value at a row, this is true or false, and the conditional has the value
of the first or the second branch there, or its error, unless it is nested too deeply. Of the other
side nothing is asked but that a whole number fits the format. -/
theorem conditional_agrees {calls : Nat} {rows : List Row} {declared : List String} {index : Nat}
    {symbol : String} {left right : Expr} {a b alone : Cell}
    (hLeft : (evaluateRows calls left rows declared)[index]? = some (.ok a))
    (hRight : (evaluateRows calls right rows declared)[index]? = some (.ok b))
    (hNumber : a.isNumber ∨ b.isNumber)
    (hFits : ∀ n, a = .int n ∨ b = .int n → (Binary64.ofInt? n).isSome)
    (hAlone : (evaluateRows calls (.comparison symbol left right) rows declared)[index]? =
      some (.ok alone))
    {whenTrue whenFalse : Expr}
    (hDepth : (evaluateRows calls (conditional (.comparison symbol left right) whenTrue whenFalse)
      rows declared)[index]? ≠ some (.error .tooDeep)) :
    ∃ holds, alone = .bool holds ∧
      (evaluateRows calls (conditional (.comparison symbol left right) whenTrue whenFalse) rows
        declared)[index]? =
      (evaluateRows calls (if holds then whenTrue else whenFalse) rows declared)[index]? := by
  have hNumberOf : ∀ cell, a = cell ∨ b = cell → HasValue cell.toNumber := by
    intro cell hCell
    cases cell with
    | int n => exact @Cell.IsPlain.hasValue_toNumber (.int n) (hFits n hCell)
    | _ => exact .ok trivial
  simp only [getElem?_evaluateRows] at hLeft hRight hAlone hDepth ⊢
  cases hRow : rows[index]? with
  | none => simp [hRow] at hAlone
  | some row =>
      simp only [hRow, Option.map_some, Option.some.injEq, ne_eq] at hLeft hRight hAlone hDepth ⊢
      cases calls with
      | zero => cases hAlone
      | succ calls =>
          obtain ⟨hLeft, hRight, holds, hCompare, hHolds⟩ :=
            exists_compare_of_eval hLeft hRight hAlone
          have hChosen := kept_conditional hLeft hRight hNumber (hNumberOf a (.inl rfl))
            (hNumberOf b (.inr rfl)) hCompare whenTrue whenFalse
          exact ⟨holds, hHolds, (hChosen.eq_of_ne hDepth).symm⟩

/-- A row with a number as a text, and without a column that is declared. -/
def measured : List Row := [Row.ofEntries [("x", .text " 2.50 ")]]

/-- A conditional whose branches are a column of the row and a column that is not known. -/
def measuredIf (test : Expr) : Expr := conditional test (.column "x") (.column "unknown")

/-- A missing value beside a number. -/
def gapTest : Expr := .comparison "<>" (.column "gap") (.literal (.int 2))

/-- A number beside a text that stands for a greater one. -/
def textTest : Expr := .comparison ">" (.literal (.int 2)) (.column "x")

/-- A missing value is unequal to a number, and a text is compared by its number: one conditional
has the value of its first branch, the other one fails as its second branch does. -/
theorem conditional_agrees_measured :
    (evaluateRows callLimit (measuredIf gapTest) measured ["gap"])[0]? =
        some (.ok (.text " 2.50 ")) ∧
      (evaluateRows callLimit (measuredIf textTest) measured ["gap"])[0]? =
        some (.error (.refused "Unknown column: unknown")) := by
  have hGap : (evaluateRows callLimit (.column "gap") measured ["gap"])[0]? =
      some (.ok .missing) := rfl
  have hText : (evaluateRows callLimit (.column "x") measured ["gap"])[0]? =
      some (.ok (.text " 2.50 ")) := rfl
  have hTwo : (evaluateRows callLimit (.literal (.int 2)) measured ["gap"])[0]? =
      some (.ok (.int 2)) := rfl
  have hFits : (Binary64.ofInt? 2).isSome := by decide +kernel
  have hUnequal : (evaluateRows callLimit gapTest measured ["gap"])[0]? =
      some (.ok (.bool true)) := rfl
  have hNotGreater : (evaluateRows callLimit textTest measured ["gap"])[0]? =
      some (.ok (.bool false)) := by
    have hCompare : compare ">" (.int 2) (.text " 2.50 ") = .ok false := by decide +kernel
    rw [getElem?_evaluateRows]
    exact congrArg some (@eval_comparison _ (callLimit - 1) _ _ _ _ _ rfl rfl _ hCompare)
  have hShallow : ∀ test ∈ [gapTest, textTest],
      ((evaluateRows callLimit (measuredIf test) measured ["gap"])[0]?.map fun result =>
        result.map fun _ => ()) ≠ some (.error .tooDeep) := by
    decide +kernel
  constructor
  · obtain ⟨holds, hHolds, hSame⟩ := @conditional_agrees callLimit measured ["gap"] 0 "<>" _ _ _ _ _
      hGap hTwo (.inr rfl) (by simp [hFits]) hUnequal (.column "x") (.column "unknown")
      fun hDeep => hShallow gapTest List.mem_cons_self (by rw [measuredIf, gapTest, hDeep]; rfl)
    cases hHolds
    exact hSame
  · obtain ⟨holds, hHolds, hSame⟩ := @conditional_agrees callLimit measured ["gap"] 0 ">" _ _ _ _ _
      hTwo hText (.inl rfl) (by simp [hFits]) hNotGreater (.column "x") (.column "unknown")
      fun hDeep => hShallow textTest (List.mem_cons_of_mem _ List.mem_cons_self)
        (by rw [measuredIf, textTest, hDeep]; rfl)
    cases hHolds
    exact hSame

end TableFlow.Formula
