import TableFlow.Formula.Expr
import TableFlow.Formula.Running
import TableFlow.Formula.Value

/-!
# Evaluation of expressions

An expression is evaluated at a row. Besides the row itself, a `Scope` gives what the functions of
the language need: the position of the row and the running totals of the columns at the row.

`Eval.step` evaluates one level of an expression and leaves the levels below to its argument;
`eval` ties the knot for a bounded number of calls. Each level is evaluated by one call. Operands
are evaluated right below it; the arguments of functions are, by one call more for each of the
helpers between: the one for calls, the one for conditions, the one for the sides of a comparison.

## Main results

* `evalBelow_eq`: the calls between are taken from those that are left.
-/

namespace TableFlow.Formula

/-- What an expression is evaluated at. -/
structure Scope where
  row : Row
  /-- The columns that a row may lack and that are then missing. -/
  declared : List String
  /-- The position of the row, from one. -/
  position : Nat
  running : String → Except Fault Running

/-- Evaluates an expression below some calls of helpers. -/
abbrev Evaluate := Nat → Expr → Except EvalError Cell

namespace Eval

/-- The cell of a column that a row has or that is declared. -/
def column (scope : Scope) (name : String) : Except EvalError Cell :=
  match scope.row.get? name with
  | some cell => .ok cell
  | none =>
      if name ∈ scope.declared then .ok .missing
      else .error (.refused ("Unknown column: " ++ name))

/-- The running total of the column that is the only argument of a function. -/
def runningArgument (scope : Scope) (function : String) : List Expr → Except EvalError Running
  | [.column name] => lift (scope.running name)
  | _ => .error (.refused (function ++ " expects a column name"))

/-- The value of an argument for which a column need not be known. -/
def laxArgument (scope : Scope) (eval : Expr → Except EvalError Cell) :
    Expr → Except EvalError Cell
  | .column name => .ok (scope.row.get name)
  | e => eval e

/-- The number of a side of a comparison that is a condition. -/
def conditionNumber (scope : Scope) (eval : Expr → Except EvalError Cell) (e : Expr) :
    Except EvalError Cell := do
  let cell ← laxArgument scope eval e
  let x ← lift cell.toNumber
  .ok (.float x)

/-- The truth of a condition: of a comparison between the numbers of its sides, of anything else
by its value. -/
def conditionValue (scope : Scope) (eval : Evaluate) : Expr → Except EvalError Bool
  | .comparison symbol left right => do
      let x ← conditionNumber scope (eval 3) left
      let y ← conditionNumber scope (eval 3) right
      compare symbol x y
  | e => do
      let cell ← eval 2 e
      .ok (isTrue cell)

/-- The truth of a condition; one that has no value is false, unless it is nested too deeply. -/
def condition (scope : Scope) (eval : Evaluate) (e : Expr) : Except EvalError Bool :=
  match conditionValue scope eval e with
  | .ok b => .ok b
  | .error .tooDeep => .error .tooDeep
  | .error _ => .ok false

/-- The value of a call. -/
def call (scope : Scope) (eval : Evaluate) (function : String) (arguments : List Expr) :
    Except EvalError Cell :=
  match function with
  | "SUM" => do
      let running ← runningArgument scope function arguments
      .ok (.float running.total)
  | "AVG" => do
      let running ← runningArgument scope function arguments
      .ok running.mean
  | "LEN" =>
      match arguments with
      | [argument] => do
          let cell ← laxArgument scope (eval 1) argument
          let text ← lift cell.toText
          .ok (.int text.length)
      | _ => .error (.refused "LEN expects exactly one argument")
  | "IF" =>
      match arguments with
      | [test, whenTrue, whenFalse] => do
          let holds ← condition scope eval test
          eval 1 (if holds then whenTrue else whenFalse)
      | _ => .error (.refused "IF expects exactly three arguments")
  | "ROW" =>
      match arguments with
      | [] => .ok (.int scope.position)
      | _ => .error (.refused "ROW expects no arguments")
  | _ => .error (.refused ("Unknown function: " ++ function))

/-- The value of a connective; the right side is evaluated only if the left side does not decide. -/
def connective (eval : Expr → Except EvalError Cell) (symbol : String) (left right : Expr) :
    Except EvalError Cell := do
  let first ← eval left
  if isTrue first = decide (symbol = conjunctionSymbol) then
    let second ← eval right
    .ok (.bool (isTrue second))
  else
    .ok (.bool (isTrue first))

/-- Evaluates the outermost level of an expression. -/
def step (scope : Scope) (eval : Evaluate) : Expr → Except EvalError Cell
  | .literal cell => .ok cell
  | .column name => column scope name
  | .unary symbol operand => do
      let cell ← eval 0 operand
      if symbol = negationSymbol then .ok (.bool !(isTrue cell)) else negative cell
  | .arithmetic symbol left right => do
      let a ← eval 0 left
      let b ← eval 0 right
      arithmetic symbol a b
  | .comparison symbol left right => do
      let a ← eval 0 left
      let b ← eval 0 right
      let holds ← compare symbol a b
      .ok (.bool holds)
  | .connective symbol left right => connective (eval 0) symbol left right
  | .call function arguments => call scope eval function arguments
  | .unsupported type => .error (.refused ("Unsupported expression: " ++ type))

end Eval

/-- Evaluates an expression below `between` calls of helpers, by at most `calls` calls one inside
another. -/
def evalBelow (scope : Scope) : (calls : Nat) → Evaluate
  | 0, _ => fun _ => .error .tooDeep
  | calls + 1, 0 => Eval.step scope (evalBelow scope calls)
  | calls + 1, between + 1 => evalBelow scope calls between

/-- Evaluates an expression by at most `calls` calls one inside another. -/
def eval (scope : Scope) (calls : Nat) : Expr → Except EvalError Cell := evalBelow scope calls 0

/-- The calls between are taken from those that are left. -/
theorem evalBelow_eq (scope : Scope) (calls between : Nat) :
    evalBelow scope calls between = eval scope (calls - between) := by
  induction calls generalizing between with
  | zero => rw [Nat.zero_sub, eval, evalBelow, evalBelow]
  | succ calls ih =>
      cases between with
      | zero => rfl
      | succ between => rw [evalBelow, ih, Nat.add_sub_add_right]

theorem eval_succ (scope : Scope) (calls : Nat) :
    eval scope (calls + 1) = Eval.step scope fun between => eval scope (calls - between) := by
  rw [← funext (evalBelow_eq scope calls)]
  rfl

/-- The scope of a row at an index, the running totals of the columns being given. -/
def Scope.at (declared : List String) (totals : String → Except Fault (List Running)) (index : Nat)
    (row : Row) : Scope :=
  { row, declared, position := index + 1,
    running := fun column => do
      let states ← totals column
      .ok (states[index]?.getD default) }

/-- The value of an expression at each row, by at most `calls` calls one inside another. -/
def evaluateRows (calls : Nat) (expr : Expr) (rows : List Row) (declared : List String) :
    List (Except EvalError Cell) :=
  let table := Running.Table.ofRows rows
  rows.zipIdx.map fun (row, index) =>
    eval (Scope.at declared (table.column rows) index row) calls expr

/-! ## Totals that are kept -/

/-- The rows of a table with the totals of the columns that were added up so far. -/
structure Evaluator where
  rows : List Row
  kept : List (String × List Running)

namespace Evaluator

/-- Nothing is kept at first. -/
def ofRows (rows : List Row) : Evaluator := ⟨rows, []⟩

/-- The totals of a column, and what is kept afterwards: totals are computed where none are kept,
and kept if they exist. -/
def totals (evaluator : Evaluator) (column : String) : Except Fault (List Running) × Evaluator :=
  match evaluator.kept.lookup column with
  | some states => (.ok states, evaluator)
  | none =>
      match Running.ofColumn evaluator.rows column with
      | .ok states => (.ok states, { evaluator with kept := (column, states) :: evaluator.kept })
      | .error cause => (.error cause, evaluator)

/-- The value of an expression at the row of an index. -/
def evaluate (evaluator : Evaluator) (declared : List String) (calls : Nat) (expr : Expr)
    (index : Nat) : Option (Except EvalError Cell) :=
  evaluator.rows[index]?.map fun row =>
    eval (Scope.at declared (fun column => (evaluator.totals column).1) index row) calls expr

end Evaluator

end TableFlow.Formula
