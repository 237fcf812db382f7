import TableFlow.Binary64.Arithmetic
import TableFlow.Binary64.Order
import TableFlow.Cell.Coercion
import TableFlow.Row

/-!
# Groups of rows and their reductions

Rows are grouped by a text, their key. Groups are in the order in which their keys appear first,
and the rows of a group in their own order. A reduction turns the numbers of a group into one cell.
Only cells that give a number take part.

Reductions are those of Arrow's compute functions over one array of binary64 numbers, as documented.
Sums are taken pairwise: blocks of sixteen numbers are added from left to right, and the sums of
the blocks are combined like the digits of a binary counter, so that up to sixteen numbers are
simply added from left to right. The mean is that sum divided by the count.
-/

namespace TableFlow

/-! ## Groups -/

/-- The groups of a list of keyed elements. -/
abbrev Groups (α : Type) := List (String × List α)

/-- Adds an element to its group. -/
def Groups.insert {α : Type} (groups : Groups α) (key : String) (x : α) : Groups α :=
  match groups with
  | [] => [(key, [x])]
  | (k, xs) :: rest =>
      if k = key then (k, xs ++ [x]) :: rest else (k, xs) :: Groups.insert rest key x

/-- Groups elements by their keys. -/
def Groups.ofKeyed {α : Type} (keyed : List (String × α)) : Groups α :=
  keyed.foldl (fun groups (key, x) => groups.insert key x) []

/-- Groups rows by a key. -/
def groupRows (key : Row → Except Fault String) (rows : List Row) : Except Fault (Groups Row) := do
  let keyed ← rows.mapM fun row => do
    let k ← key row
    .ok (k, row)
  .ok (Groups.ofKeyed keyed)

/-! ## Reductions -/

inductive Reduction where
  | sum
  | mean
  | median
  | count
  | least
  | greatest
deriving DecidableEq, Repr

namespace Reduction

/-- How many numbers are added from left to right before sums are combined. -/
def blockSize : Nat := 16

/-- The levels of the counter of sums, the lowest first. A level is occupied while it holds a sum
that waits for its partner. -/
abbrev SumLevels := List (Binary64 × Bool)

/-- Adds a sum at the lowest level; a level that was occupied passes the total on. -/
def SumLevels.push (levels : SumLevels) (x : Binary64) : SumLevels :=
  match levels with
  | [] => [(Binary64.zero + x, true)]
  | (y, false) :: rest => (y + x, true) :: rest
  | (y, true) :: rest => (Binary64.zero, false) :: SumLevels.push rest (y + x)

/-- The sum of all levels, added from the lowest up. -/
def SumLevels.total : SumLevels → Binary64
  | [] => .zero
  | (x, _) :: rest => rest.foldl (fun total (y, _) => y + total) x

/-- The sum of numbers from left to right. -/
def runningSum (xs : List Binary64) : Binary64 := xs.foldl (· + ·) .zero

/-- The sums of the blocks of a list, each block added from left to right. -/
def blockSums (xs : List Binary64) : Nat → List Binary64
  | 0 => []
  | blocks + 1 => runningSum (xs.take blockSize) :: blockSums (xs.drop blockSize) blocks

/-- The pairwise sum. -/
def pairwiseSum (xs : List Binary64) : Binary64 :=
  let sums := blockSums xs ((xs.length + blockSize - 1) / blockSize)
  (sums.foldl SumLevels.push []).total

/-- The sum divided by the count, if there are numbers. -/
def mean? (xs : List Binary64) : Option Binary64 :=
  if xs.isEmpty then none
  else some (pairwiseSum xs / Binary64.nearestInt xs.length)

/-- The number at the given place of the order; NaN comes last. -/
def atRank? (rank : Nat) (xs : List Binary64) : Option Binary64 :=
  (xs.mergeSort fun x y => y.isNaN || x.le y)[rank]?

/-- The number in the middle of the order, the upper one of two. -/
def median? (xs : List Binary64) : Option Binary64 := atRank? (xs.length / 2) xs

/-- The number that no other one precedes, or the bound if there are none but NaN. Of equal numbers
the last one is taken. -/
def extreme? (bound : Binary64) (precedes : Binary64 → Binary64 → Bool) :
    List Binary64 → Option Binary64
  | [] => none
  | xs => some (xs.foldl (fun best x => if x.isNaN || precedes best x then best else x) bound)

def least? : List Binary64 → Option Binary64 := extreme? (.infinite false) Binary64.lt

def greatest? : List Binary64 → Option Binary64 := extreme? (.infinite true) fun x y => y.lt x

/-- A number that may be missing, as a cell. -/
def cellOfNumber? : Option Binary64 → Cell
  | some x => .float x
  | none => .missing

/-- Reduces numbers to a cell; all but the sum and the count of no numbers is missing. -/
def reduce : Reduction → List Binary64 → Cell
  | .sum, xs => .float (pairwiseSum xs)
  | .mean, xs => cellOfNumber? (mean? xs)
  | .median, xs => cellOfNumber? (median? xs)
  | .count, xs => .int xs.length
  | .least, xs => cellOfNumber? (least? xs)
  | .greatest, xs => cellOfNumber? (greatest? xs)

/-- The reduction of a name; the mean has two. -/
def ofName? : String → Option Reduction
  | "sum" => some .sum
  | "mean" => some .mean
  | "avg" => some .mean
  | "median" => some .median
  | "count" => some .count
  | "min" => some .least
  | "max" => some .greatest
  | _ => none

/-- The message for a name that is not the name of a reduction. -/
def unknownMessage (name : String) : String := "Unsupported reduction: " ++ name

end Reduction

/-- The numbers that the cells of a column give, in order. -/
def columnNumbers (rows : List Row) (column : String) : Except Fault (List Binary64) := do
  let xs ← rows.mapM fun row => (row.get column).toNumber
  .ok (xs.filter (!·.isNaN))

end TableFlow
