import TableFlow.Formula.Eval

/-!
# What an expression reads

The value of an expression depends on four things only: the cells of its row in the columns that it
names, the running totals of the columns that it adds up, the declared columns, and, if it calls
`ROW`, the position of its row. All four are read off the list of its parts, which is the expression
and all the expressions within it.

Scopes that agree on these give an expression the same value, or the same error. The proof follows
the evaluation: `Eval.step_congr` is about the outermost level and leaves the levels below to its
hypothesis, `eval_congr` goes through the levels.

## Main results

* `Expr.parts_subset_of_mem`: a part of a part is a part.
* `eval_congr`: the value of an expression depends on nothing that it does not read.
-/

namespace TableFlow.Formula

namespace Expr

mutual

/-- An expression and all the expressions within it. -/
def parts : Expr → List Expr
  | .literal cell => [.literal cell]
  | .column name => [.column name]
  | .unary symbol operand => .unary symbol operand :: operand.parts
  | .arithmetic symbol left right => .arithmetic symbol left right :: (left.parts ++ right.parts)
  | .comparison symbol left right => .comparison symbol left right :: (left.parts ++ right.parts)
  | .connective symbol left right => .connective symbol left right :: (left.parts ++ right.parts)
  | .call function arguments => .call function arguments :: partsOfAll arguments
  | .unsupported type => [.unsupported type]

/-- The parts of some expressions. -/
def partsOfAll : List Expr → List Expr
  | [] => []
  | e :: es => e.parts ++ partsOfAll es

end

/-- The name of a column. -/
def name? : Expr → Option String
  | .column name => some name
  | _ => none

/-- The column that a call adds up. -/
def summedColumn? : Expr → Option String
  | .call function [.column name] =>
      if function = "SUM" ∨ function = "AVG" then some name else none
  | _ => none

/-- The function of a call. -/
def function? : Expr → Option String
  | .call function _ => some function
  | _ => none

/-- The columns that an expression names. -/
def columns (e : Expr) : List String := e.parts.filterMap name?

/-- The columns that an expression adds up. -/
def summedColumns (e : Expr) : List String := e.parts.filterMap summedColumn?

/-- The functions that an expression calls. -/
def functions (e : Expr) : List String := e.parts.filterMap function?

/-! ## Parts of parts -/

theorem parts_subset_partsOfAll {e : Expr} {es : List Expr} (h : e ∈ es) :
    e.parts ⊆ partsOfAll es := by
  induction es with
  | nil => cases h
  | cons first es ih =>
      rcases List.mem_cons.1 h with rfl | hRest
      · exact List.subset_append_left _ _
      · exact List.subset_append_of_subset_right _ (ih hRest)

theorem parts_subset_call {argument : Expr} {arguments : List Expr} (h : argument ∈ arguments)
    (function : String) : argument.parts ⊆ (Expr.call function arguments).parts :=
  List.subset_cons_of_subset _ (parts_subset_partsOfAll h)

private theorem subset_append_of_mem {front back : List Expr} {part : Expr}
    (h : part ∈ front ++ back) (hFront : part ∈ front → part.parts ⊆ front)
    (hBack : part ∈ back → part.parts ⊆ back) : part.parts ⊆ front ++ back := by
  rcases List.mem_append.1 h with hMember | hMember
  · exact List.subset_append_of_subset_left _ (hFront hMember)
  · exact List.subset_append_of_subset_right _ (hBack hMember)

private theorem subset_cons_of_mem {e part : Expr} {inner : List Expr}
    (hParts : e.parts = e :: inner)
    (h : part ∈ e.parts) (hInner : part ∈ inner → part.parts ⊆ inner) : part.parts ⊆ e.parts := by
  rw [hParts] at h
  rcases List.mem_cons.1 h with rfl | hMember
  · exact List.Subset.refl _
  · rw [hParts]
    exact List.subset_cons_of_subset _ (hInner hMember)

mutual

/-- A part of a part is a part. -/
theorem parts_subset_of_mem : (e : Expr) → {part : Expr} → part ∈ e.parts → part.parts ⊆ e.parts
  | .literal _, _, h => subset_cons_of_mem rfl h fun hNone => by cases hNone
  | .column _, _, h => subset_cons_of_mem rfl h fun hNone => by cases hNone
  | .unary _ operand, _, h => subset_cons_of_mem rfl h (parts_subset_of_mem operand)
  | .arithmetic _ left right, _, h => subset_cons_of_mem rfl h fun hInner =>
      subset_append_of_mem hInner (parts_subset_of_mem left) (parts_subset_of_mem right)
  | .comparison _ left right, _, h => subset_cons_of_mem rfl h fun hInner =>
      subset_append_of_mem hInner (parts_subset_of_mem left) (parts_subset_of_mem right)
  | .connective _ left right, _, h => subset_cons_of_mem rfl h fun hInner =>
      subset_append_of_mem hInner (parts_subset_of_mem left) (parts_subset_of_mem right)
  | .call _ arguments, _, h => subset_cons_of_mem rfl h (partsOfAll_subset_of_mem arguments)
  | .unsupported _, _, h => subset_cons_of_mem rfl h fun hNone => by cases hNone

theorem partsOfAll_subset_of_mem :
    (es : List Expr) → {part : Expr} → part ∈ partsOfAll es → part.parts ⊆ partsOfAll es
  | [], _, h => by cases h
  | e :: es, _, h =>
      subset_append_of_mem h (parts_subset_of_mem e) (partsOfAll_subset_of_mem es)

end

/-- A column that is added up is named. -/
theorem summedColumns_subset (e : Expr) : e.summedColumns ⊆ e.columns := by
  intro name hName
  obtain ⟨part, hPart, hSummed⟩ := List.mem_filterMap.1 hName
  unfold summedColumn? at hSummed
  split at hSummed
  · next function column =>
    split at hSummed
    · cases hSummed
      have hColumn : Expr.column name ∈ (Expr.call function [.column name]).parts := by
        simp [parts, partsOfAll]
      exact List.mem_filterMap.2 ⟨_, parts_subset_of_mem e hPart hColumn, rfl⟩
    · cases hSummed
  · cases hSummed

end Expr

/-! ## Scopes that agree -/

/-- Two scopes give an expression the same to read. -/
structure Scope.AgreeOn (e : Expr) (s s' : Scope) : Prop where
  declared : s.declared = s'.declared
  cell : ∀ name ∈ e.columns, s.row.get? name = s'.row.get? name
  running : ∀ name ∈ e.summedColumns, s.running name = s'.running name
  position : "ROW" ∈ e.functions → s.position = s'.position

section

variable {s s' : Scope} {e : Expr} {f g : Evaluate}

theorem Scope.AgreeOn.of_subset {part : Expr} (h : Scope.AgreeOn e s s')
    (hPart : part.parts ⊆ e.parts) : Scope.AgreeOn part s s' where
  declared := h.declared
  cell name hName := h.cell name (List.filterMap_subset _ hPart hName)
  running name hName := h.running name (List.filterMap_subset _ hPart hName)
  position hCall := h.position (List.filterMap_subset _ hPart hCall)

theorem Scope.AgreeOn.cell_column {name : String} (h : Scope.AgreeOn (.column name) s s') :
    s.row.get? name = s'.row.get? name :=
  h.cell name (by simp [Expr.columns, Expr.parts, Expr.name?])

namespace Eval

theorem column_congr {name : String} (h : Scope.AgreeOn (.column name) s s') :
    column s name = column s' name := by
  have hCell : s.row.get? name = s'.row.get? name := h.cell_column
  simp only [column, hCell, h.declared]

theorem laxArgument_congr {between : Nat} (h : Scope.AgreeOn e s s')
    (hEval : f between e = g between e) :
    laxArgument s (f between) e = laxArgument s' (g between) e := by
  cases e with
  | column name =>
      have hCell : s.row.get? name = s'.row.get? name := h.cell_column
      simp only [laxArgument, Row.get, hCell]
  | _ => exact hEval

theorem conditionNumber_congr {between : Nat} (h : Scope.AgreeOn e s s')
    (hEval : f between e = g between e) :
    conditionNumber s (f between) e = conditionNumber s' (g between) e := by
  simp only [conditionNumber, laxArgument_congr h hEval]

theorem condition_congr (h : Scope.AgreeOn e s s')
    (hEval : ∀ between (part : Expr), part.parts ⊆ e.parts → f between part = g between part) :
    condition s f e = condition s' g e := by
  have hValue : conditionValue s f e = conditionValue s' g e := by
    cases e with
    | comparison symbol left right =>
        have hLeft : left.parts ⊆ (Expr.comparison symbol left right).parts := by
          simp [Expr.parts]
        have hRight : right.parts ⊆ (Expr.comparison symbol left right).parts := by
          simp [Expr.parts]
        simp only [conditionValue, conditionNumber_congr (h.of_subset hLeft) (hEval 3 left hLeft),
          conditionNumber_congr (h.of_subset hRight) (hEval 3 right hRight)]
    | _ => simp only [conditionValue, hEval 2 _ (List.Subset.refl _)]
  simp only [condition, hValue]

theorem runningArgument_congr {function : String} {arguments : List Expr}
    (hFunction : function = "SUM" ∨ function = "AVG")
    (h : Scope.AgreeOn (.call function arguments) s s') :
    runningArgument s function arguments = runningArgument s' function arguments := by
  unfold runningArgument
  split
  · next name =>
    have hRunning : s.running name = s'.running name :=
      h.running name (by simp [Expr.summedColumns, Expr.parts, Expr.summedColumn?, hFunction])
    rw [hRunning]
  · rfl

theorem call_congr {function : String} {arguments : List Expr}
    (h : Scope.AgreeOn (.call function arguments) s s')
    (hEval : ∀ between (part : Expr), part.parts ⊆ (Expr.call function arguments).parts →
      f between part = g between part) :
    call s f function arguments = call s' g function arguments := by
  have hPart : ∀ argument ∈ arguments, argument.parts ⊆ (Expr.call function arguments).parts :=
    fun argument hArgument => Expr.parts_subset_call hArgument function
  unfold call
  split
  · rw [runningArgument_congr (.inl rfl) h]
  · rw [runningArgument_congr (.inr rfl) h]
  · split
    · next argument =>
      have hArgument := hPart argument (by simp)
      rw [laxArgument_congr (h.of_subset hArgument) (hEval 1 argument hArgument)]
    · rfl
  · split
    · next test whenTrue whenFalse =>
      have hTest := hPart test (by simp)
      have hTrue : f 1 whenTrue = g 1 whenTrue := hEval 1 whenTrue (hPart whenTrue (by simp))
      have hFalse : f 1 whenFalse = g 1 whenFalse := hEval 1 whenFalse (hPart whenFalse (by simp))
      have hCondition : condition s f test = condition s' g test :=
        condition_congr (h.of_subset hTest) fun between part hSub =>
          hEval between part (List.Subset.trans hSub hTest)
      simp only [hCondition, apply_ite (f 1), apply_ite (g 1), hTrue, hFalse]
    · rfl
  · split
    · have hPosition : s.position = s'.position :=
        h.position (by simp [Expr.functions, Expr.parts, Expr.function?])
      rw [hPosition]
    · rfl
  · rfl

/-- The outermost level of an expression reads what the expression reads, apart from what the levels
below do. -/
theorem step_congr (h : Scope.AgreeOn e s s')
    (hEval : ∀ between (part : Expr), part.parts ⊆ e.parts → f between part = g between part) :
    step s f e = step s' g e := by
  cases e with
  | literal cell => rfl
  | column name => exact column_congr h
  | unary symbol operand =>
      have hOperand : f 0 operand = g 0 operand := hEval 0 operand (by simp [Expr.parts])
      simp only [step, hOperand]
  | arithmetic symbol left right =>
      have hLeft : f 0 left = g 0 left := hEval 0 left (by simp [Expr.parts])
      have hRight : f 0 right = g 0 right := hEval 0 right (by simp [Expr.parts])
      simp only [step, hLeft, hRight]
  | comparison symbol left right =>
      have hLeft : f 0 left = g 0 left := hEval 0 left (by simp [Expr.parts])
      have hRight : f 0 right = g 0 right := hEval 0 right (by simp [Expr.parts])
      simp only [step, hLeft, hRight]
  | connective symbol left right =>
      have hLeft : f 0 left = g 0 left := hEval 0 left (by simp [Expr.parts])
      have hRight : f 0 right = g 0 right := hEval 0 right (by simp [Expr.parts])
      simp only [step, connective, hLeft, hRight]
  | call function arguments => exact call_congr h hEval
  | unsupported type => rfl

end Eval

/-- The value of an expression, or its error, depends on nothing that the expression does not
read. -/
theorem eval_congr (h : Scope.AgreeOn e s s') (calls : Nat) :
    eval s calls e = eval s' calls e := by
  induction calls using Nat.strongRecOn generalizing e with
  | ind calls ih =>
      cases calls with
      | zero => rfl
      | succ calls =>
          rw [eval_succ, eval_succ]
          exact Eval.step_congr h fun between part hPart =>
            ih (calls - between) (by omega) (h.of_subset hPart)

end

end TableFlow.Formula
