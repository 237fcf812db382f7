import TableFlow.Binary64.Basic

/-!
# The order of binary64 numbers

Every number but NaN has a rank among the whole numbers: its signed count of units, the infinities
lying beyond all finite counts. Comparisons are comparisons of ranks and are false as soon as one
side is NaN; the two zeros have one rank.
-/

namespace TableFlow.Binary64

/-- The place of a number in the order; NaN has none. -/
def rank : Binary64 → Option Int
  | .nan => none
  | .infinite negative => some (signedUnits negative unitsLimit)
  | .finite negative units _ => some (signedUnits negative units)

/-- Compares the ranks of two numbers by a relation; false if one is NaN. -/
def compareRanks (relation : Int → Int → Bool) (x y : Binary64) : Bool :=
  match x.rank, y.rank with
  | some a, some b => relation a b
  | _, _ => false

/-- `x < y`, false if one is NaN. -/
def lt : Binary64 → Binary64 → Bool := compareRanks fun a b => decide (a < b)

/-- `x ≤ y`, false if one is NaN. -/
def le : Binary64 → Binary64 → Bool := compareRanks fun a b => decide (a ≤ b)

/-- Numeric equality: the two zeros are equal, and NaN equals nothing. -/
def numEq : Binary64 → Binary64 → Bool := compareRanks fun a b => decide (a = b)

/-- Equal to zero, of either sign. -/
def isZero (x : Binary64) : Bool := x.rank == some 0

end TableFlow.Binary64
