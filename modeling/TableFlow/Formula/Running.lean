import TableFlow.Binary64.Arithmetic
import TableFlow.Cell.Coercion
import TableFlow.Row

/-!
# Running totals

The running total of a column at a row is the sum, from left to right, of the numbers of the column
up to that row, with their count.
-/

namespace TableFlow.Formula

/-- The sum and the count of the numbers seen so far. -/
structure Running where
  total : Binary64 := .zero
  count : Nat := 0

instance : Inhabited Running := ⟨{}⟩

namespace Running

/-- Takes in one more cell's number; NaN stands for no number. -/
def add (running : Running) (x : Binary64) : Running :=
  if x.isNaN then running else ⟨running.total + x, running.count + 1⟩

/-- The states after each of the numbers. -/
def scan (running : Running) : List Binary64 → List Running
  | [] => []
  | x :: xs => running.add x :: scan (running.add x) xs

/-- The running totals of a column. A number that is too large fails every row of the column. -/
def ofColumn (rows : List Row) (column : String) : Except Fault (List Running) := do
  let xs ← rows.mapM fun row => (row.get column).toNumber
  .ok (scan default xs)

/-- The mean of the numbers seen so far, zero if there are none. -/
def mean (running : Running) : Cell :=
  if running.count = 0 then .int 0
  else .float (running.total / Binary64.nearestInt running.count)

/-- The running totals of the columns of a list of rows, each computed when it is first needed. -/
abbrev Table := List (String × Thunk (Except Fault (List Running)))

def Table.ofRows (rows : List Row) : Table :=
  (columnsOf rows).map fun column => (column, Thunk.mk fun _ => ofColumn rows column)

/-- The running totals of a column of the rows that a table was made of. -/
def Table.column (table : Table) (rows : List Row) (column : String) :
    Except Fault (List Running) :=
  match table.lookup column with
  | some totals => totals.get
  | none => ofColumn rows column

end Running

end TableFlow.Formula
