import TableFlow.Formula.Eval
import TableFlow.Formula.Parser
import TableFlow.Notice

/-!
# Columns computed by formulas

A formula gives every row one more cell, or another cell in the place of an old one. A row where
the formula has no value gets a missing cell, and so does every row if the formula cannot be read;
other rows and columns are never touched.
-/

namespace TableFlow

/-- The name of a column and the formula that computes it. Both are texts; a configuration may hold
any other value in their places. A formula that is no text fails when rows are computed. -/
structure FormulaColumn where
  name : Cell
  formula : Cell

namespace FormulaColumn

/-- A column that a text computes. -/
def ofText (name text : String) : FormulaColumn := ⟨.text name, .text text⟩

/-- The cells of the column at each row, missing ones where the formula has no value. The formula is
read and evaluated by at most `calls` calls one inside another. -/
def cells (calls : Nat) (text : String) (declared : List String) (rows : List Row) : List Cell :=
  match Formula.read calls text with
  | .error _ => rows.map fun _ => .missing
  | .ok expr =>
      (Formula.evaluateRows calls expr rows declared).map fun value =>
        match value with
        | .ok cell => cell
        | .error _ => .missing

/-- The rows with the column of a name filled by a text. -/
def filled (name text : String) (declared : List String) (calls : Nat) (rows : List Row) :
    List Row :=
  List.zipWith (fun row cell => row.set name cell) rows (cells calls text declared rows)

/-- The rows with the column computed. -/
def apply (column : FormulaColumn) (declared : List String) (calls : Nat) (rows : List Row) :
    Except Fault (List Row) :=
  match column.formula, column.name with
  | .text text, .text name => .ok (filled name text declared calls rows)
  | .text _, name => Row.unnamed [name] rows
  | _, _ => .error .formulaNotText

/-- The part of the program that the notices about formulas come from. -/
def noticeOrigin : String := "tabshaper.compute.formula"

/-- The notice about a formula that cannot be read. -/
def unreadableNotice (column : FormulaColumn) (text : String) (e : Formula.SyntaxError) : Notice :=
  ⟨.warning, noticeOrigin,
    "Invalid formula " ++ Text.quote text ++ " for " ++ column.name.shownLiteral ++ ": " ++
      e.message⟩

/-- The notice about a row where a formula has no value. -/
def failureNotice (column : FormulaColumn) (index : Nat) (e : Formula.EvalError) : Notice :=
  ⟨.debug, noticeOrigin,
    "Formula " ++ column.name.shownLiteral ++ " failed on row " ++
      String.ofList (Decimal.numeral index) ++ ": " ++ e.message⟩

/-- The notices of computing the column. -/
def notices (column : FormulaColumn) (declared : List String) (calls : Nat) (rows : List Row) :
    List Notice :=
  match column.formula with
  | .text text =>
      match Formula.read calls text with
      | .error e => [unreadableNotice column text e]
      | .ok expr =>
          (Formula.evaluateRows calls expr rows declared).zipIdx.filterMap fun (value, index) =>
            match value with
            | .ok _ => none
            | .error e => some (failureNotice column index e)
  | _ => []

/-- A computed column as it is shown: its fields with their literals. -/
def literal (column : FormulaColumn) : String :=
  "FormulaConfig(name=" ++ column.name.shownLiteral ++ ", formula=" ++
    column.formula.shownLiteral ++ ")"

/-- A computed column in a summary. -/
def summary (column : FormulaColumn) : String :=
  column.name.shown ++ " = " ++ column.formula.shown

end FormulaColumn

end TableFlow
