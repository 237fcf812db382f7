import TableFlow.Cell.Coercion
import TableFlow.Row
import TableFlow.Text.Case
import TableFlow.Text.Split

/-!
# Filters

A filter keeps the rows whose cell in a column stands in a relation to given texts. Texts are
compared in lower case, numbers by the order of binary64, so a comparison with something that is
not a number keeps nothing. A filter with an operator that is not known keeps every row.

Several filters are applied one after the other; each one sees the rows that the earlier ones kept.

The filters of a configuration may name their column and their operator by any cells. No row has a
column that is not named by a text, and an operator that is no text is not known.

## Main results

* `FilterConfig.apply_ofFilters`: configured filters whose names are texts are filters.
-/

namespace TableFlow

open Text (lower)

/-- The relations that a filter knows. -/
inductive Operator where
  | equals
  | contains
  | startsWith
  | endsWith
  | greater
  | less
  | greaterOrEqual
  | lessOrEqual
  | between
  | isEmpty
  | isNotEmpty
deriving DecidableEq, Repr

def Operator.ofName? : String → Option Operator
  | "equals" => some .equals
  | "contains" => some .contains
  | "startsWith" => some .startsWith
  | "endsWith" => some .endsWith
  | "gt" => some .greater
  | "lt" => some .less
  | "gte" => some .greaterOrEqual
  | "lte" => some .lessOrEqual
  | "between" => some .between
  | "isEmpty" => some .isEmpty
  | "isNotEmpty" => some .isNotEmpty
  | _ => none

/-- A predicate on the cells of a column. The operator is kept by name, since names that are not
known are allowed. -/
structure Filter where
  column : String
  operator : String
  value : String := ""
  value2 : Option String := none
deriving DecidableEq, Repr

namespace Filter

/-- Whether a cell is in a textual relation to the value of a filter, case left aside. -/
def relatesText (relation : List Char → List Char → Bool) (value : String) (cell : Cell) :
    Except Fault Bool := do
  let text ← cell.toText
  .ok (relation (lower value.toList) (lower text.toList))

/-- Whether the number of a cell satisfies a predicate. -/
def relatesNumber (predicate : Binary64 → Bool) (cell : Cell) : Except Fault Bool := do
  let x ← cell.toNumber
  .ok (predicate x)

/-- Whether a filter with a known operator keeps a cell. -/
def keepsCell (operator : Operator) (value : String) (value2 : Option String) (cell : Cell) :
    Except Fault Bool :=
  let number := Cell.numberOfText value
  match operator with
  | .equals => relatesText (fun v t => t == v) value cell
  | .contains => relatesText (fun v t => Text.contains v t) value cell
  | .startsWith => relatesText (fun v t => v.isPrefixOf t) value cell
  | .endsWith => relatesText (fun v t => v.isSuffixOf t) value cell
  | .greater => relatesNumber (fun x => number.lt x) cell
  | .less => relatesNumber (fun x => x.lt number) cell
  | .greaterOrEqual => relatesNumber (fun x => number.le x) cell
  | .lessOrEqual => relatesNumber (fun x => x.le number) cell
  | .between =>
      let upper := (value2.map Cell.numberOfText).getD .nan
      relatesNumber (fun x => number.le x && x.le upper) cell
  | .isEmpty => .ok (cell.isNaN || cell.isFalse)
  | .isNotEmpty => .ok (!(cell.isNaN || cell.isFalse))

/-- Whether a filter keeps a row. -/
def keeps (filter : Filter) (row : Row) : Except Fault Bool :=
  match Operator.ofName? filter.operator with
  | some operator => keepsCell operator filter.value filter.value2 (row.get filter.column)
  | none => .ok true

/-- The rows that satisfy a predicate, in order. -/
def select (predicate : Row → Except Fault Bool) : List Row → Except Fault (List Row)
  | [] => .ok []
  | row :: rows => do
      let kept ← predicate row
      let rest ← select predicate rows
      .ok (if kept then row :: rest else rest)

/-- The rows that all filters keep. -/
def apply : List Filter → List Row → Except Fault (List Row)
  | [], rows => .ok rows
  | filter :: filters, rows => do
      let rows ← select filter.keeps rows
      apply filters rows

end Filter

/-- A filter of a configuration. -/
structure FilterConfig where
  column : Cell
  operator : Cell
  value : String := ""
  value2 : Option String := none

namespace FilterConfig

/-- A filter whose names are texts. -/
def ofFilter (filter : Filter) : FilterConfig :=
  ⟨.text filter.column, .text filter.operator, filter.value, filter.value2⟩

/-- The operator, if it is known. -/
def operator? (f : FilterConfig) : Option Operator :=
  match f.operator with
  | .text name => Operator.ofName? name
  | _ => none

/-- Whether a filter keeps a row; without an operator, the column is not looked up. -/
def keeps (f : FilterConfig) (row : Row) : Except Fault Bool :=
  match f.operator? with
  | some operator => do
      let cell ← row.lookup f.column
      Filter.keepsCell operator f.value f.value2 cell
  | none => .ok true

/-- The rows that all filters keep. -/
def apply : List FilterConfig → List Row → Except Fault (List Row)
  | [], rows => .ok rows
  | f :: filters, rows => do
      let rows ← Filter.select f.keeps rows
      apply filters rows

theorem keeps_ofFilter (filter : Filter) : (ofFilter filter).keeps = filter.keeps := rfl

theorem apply_ofFilters (filters : List Filter) (rows : List Row) :
    apply (filters.map ofFilter) rows = Filter.apply filters rows := by
  induction filters generalizing rows with
  | nil => rfl
  | cons filter filters ih =>
      rw [List.map_cons, apply, Filter.apply, keeps_ofFilter]
      simp only [ih]

/-- A filter as it is shown: its fields with their literals. -/
def literal (f : FilterConfig) : String :=
  "FilterConfig(column=" ++ f.column.shownLiteral ++
    ", operator=" ++ f.operator.shownLiteral ++
    ", value=" ++ Text.quote f.value ++
    ", value2=" ++ ((f.value2.map Text.quote).getD "None") ++ ")"

/-- A filter in a summary. -/
def summary (f : FilterConfig) : String :=
  f.column.shown ++ " " ++ f.operator.shown ++ " \"" ++ f.value ++ "\""

end FilterConfig

end TableFlow
