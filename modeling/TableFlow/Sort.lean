import TableFlow.Binary64.Arithmetic
import TableFlow.Cell.Coercion
import TableFlow.MergeSort
import TableFlow.Row
import TableFlow.Text.Case
import TableFlow.Text.Order

/-!
# Sorting rows

Rows are sorted by a list of keys: the first key whose cells differ decides. Two numbers are
compared by their difference, all other pairs of cells by their texts, first without regard to case
and then with it. The keys of a configuration may name their column by any cell.

## Main results

* `SortConfig.sort_ofKeys`: sorting by configured keys whose names are texts is sorting by keys.
-/

namespace TableFlow

inductive Direction where
  | ascending
  | descending
deriving DecidableEq, Repr

def Direction.name : Direction → String
  | .ascending => "asc"
  | .descending => "desc"

def Direction.ofName? : String → Option Direction
  | "asc" => some .ascending
  | "desc" => some .descending
  | _ => none

theorem Direction.ofName?_name (d : Direction) : Direction.ofName? d.name = some d := by
  cases d <;> rfl

/-- A column to sort by. -/
structure SortKey where
  column : String
  direction : Direction := .ascending
deriving DecidableEq, Repr

/-- Compares two texts without regard to case, and texts that differ in case only with regard to
it. -/
def compareTexts (s t : String) : Except Fault Ordering :=
  if '\x00' ∈ s.toList ∨ '\x00' ∈ t.toList then .error .nulInText
  else .ok ((Text.compareCodePoints (Text.fold s.toList) (Text.fold t.toList)).then
    (Text.compareCodePoints s.toList t.toList))

/-- What a comparison of two cells finds: the difference of two numbers, or the order of texts. -/
inductive Difference where
  | whole (n : Int)
  | binary64 (x : Binary64)
  | order (o : Ordering)

/-- The result of a comparison. Numbers whose difference is NaN are not equal, and neither comes
first. -/
inductive Verdict where
  | less
  | equal
  | greater
  | undecided
deriving DecidableEq, Repr

def Verdict.ofOrdering : Ordering → Verdict
  | .lt => .less
  | .eq => .equal
  | .gt => .greater

/-- The result with the two sides exchanged. -/
def Verdict.reverse : Verdict → Verdict
  | .less => .greater
  | .greater => .less
  | v => v

/-- The verdict of the sign of a difference. -/
def Difference.verdict : Difference → Verdict
  | .whole n => if n < 0 then .less else if n = 0 then .equal else .greater
  | .binary64 x =>
      match x.rank with
      | some n => if n < 0 then .less else if n = 0 then .equal else .greater
      | none => .undecided
  | .order o => .ofOrdering o

/-- The difference of two cells. A whole number is taken as a binary64 number if the other number
is one. -/
def Cell.difference : Cell → Cell → Except Fault Difference
  | .int m, .int n => .ok (.whole (m - n))
  | a, b => do
      if a.isNumber && b.isNumber then
        let x ← a.toNumber
        let y ← b.toNumber
        .ok (.binary64 (x - y))
      else
        let s ← a.toText
        let t ← b.toText
        let o ← compareTexts s t
        .ok (.order o)

/-- Compares two cells. -/
def Cell.compare (a b : Cell) : Except Fault Verdict := do
  let d ← a.difference b
  .ok d.verdict

namespace SortKey

/-- Compares two rows by one key. -/
def compare (key : SortKey) (left right : Row) : Except Fault Verdict := do
  let v ← (left.get key.column).compare (right.get key.column)
  .ok (match key.direction with
    | .ascending => v
    | .descending => v.reverse)

/-- Compares two rows by the first key on which they differ. -/
def compareRows : List SortKey → Row → Row → Except Fault Verdict
  | [], _, _ => .ok .equal
  | key :: keys, left, right => do
      let v ← key.compare left right
      if v = .equal then compareRows keys left right else .ok v

/-- Tells if a row may stay in front of another one: the other one does not come first. -/
def inOrder (keys : List SortKey) (left right : Row) : Except Fault Bool := do
  let v ← compareRows keys right left
  .ok (v != .less)

/-- Sorts rows by keys; rows that compare as equal keep their order. -/
def sort (keys : List SortKey) (rows : List Row) : Except Fault (List Row) :=
  if keys.isEmpty then .ok rows else mergeSortM (inOrder keys) rows

end SortKey

/-- A key of a configuration. -/
structure SortConfig where
  column : Cell
  direction : Direction := .ascending

namespace SortConfig

/-- A key whose name is a text. -/
def ofKey (key : SortKey) : SortConfig := ⟨.text key.column, key.direction⟩

/-- Compares two rows by one key. -/
def compare (key : SortConfig) (left right : Row) : Except Fault Verdict := do
  let a ← left.lookup key.column
  let b ← right.lookup key.column
  let v ← a.compare b
  .ok (match key.direction with
    | .ascending => v
    | .descending => v.reverse)

/-- Compares two rows by the first key on which they differ. -/
def compareRows : List SortConfig → Row → Row → Except Fault Verdict
  | [], _, _ => .ok .equal
  | key :: keys, left, right => do
      let v ← key.compare left right
      if v = .equal then compareRows keys left right else .ok v

/-- Sorts rows by keys; rows that compare as equal keep their order. -/
def sort (keys : List SortConfig) (rows : List Row) : Except Fault (List Row) :=
  if keys.isEmpty then .ok rows
  else mergeSortM (fun left right => do
    let v ← compareRows keys right left
    .ok (v != .less)) rows

theorem compareRows_ofKeys (keys : List SortKey) :
    compareRows (keys.map ofKey) = SortKey.compareRows keys := by
  induction keys with
  | nil => rfl
  | cons key keys ih =>
      funext left right
      rw [List.map_cons, compareRows, SortKey.compareRows, ih]
      rfl

theorem sort_ofKeys (keys : List SortKey) : sort (keys.map ofKey) = SortKey.sort keys := by
  funext rows
  rw [sort, SortKey.sort, compareRows_ofKeys, List.isEmpty_map]
  rfl

/-- The keys as they are shown. -/
def literals (keys : List SortConfig) : String :=
  "[" ++ commaSeparated (keys.map fun key =>
    "(" ++ key.column.shownLiteral ++ ", " ++ Text.quote key.direction.name ++ ")") ++ "]"

/-- A key as it is shown: its fields with their literals. -/
def literal (key : SortConfig) : String :=
  "SortConfig(column=" ++ key.column.shownLiteral ++
    ", direction=" ++ Text.quote key.direction.name ++ ")"

/-- A key in a summary. -/
def summary (key : SortConfig) : String := key.column.shown ++ " " ++ key.direction.name

end SortConfig

end TableFlow
