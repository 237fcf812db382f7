import TableFlow.Binary64.Basic
import TableFlow.Decimal.Scientific

/-!
# The decimal digits of binary64 numbers

Two ways to choose digits for a positive finite number, both in exact arithmetic on its count of
units.

* `Decimal.shortest`: the fewest digits that read back as the number, and among those the nearest
  to it. A decimal reads back if it lies between the two points halfway to the neighbouring
  numbers, the points included if the significand is even. If any point of a decimal grid does,
  then one of the two that enclose the number does, so only those are tried.
* `Decimal.significant`: a fixed count of significant digits, rounded to nearest.
-/

namespace TableFlow.Decimal

open Binary64 (unitsPerOne excessBits)

/-- The decimals that read back as a number, in quarters of a unit. -/
structure ReadBack where
  low : Nat
  high : Nat
  closed : Bool

/-- A number at the bottom of its binade has a nearer neighbour below than above. -/
def ReadBack.ofUnits (units : Nat) : ReadBack :=
  let gap := 2 ^ excessBits units
  let below := if 0 < excessBits units ∧ units = 2 ^ units.log2 then gap else 2 * gap
  { low := 4 * units - below, high := 4 * units + 2 * gap, closed := units / gap % 2 = 0 }

/-- Tells if `whole · 10^place` reads back. -/
def ReadBack.contains (r : ReadBack) (whole : Nat) (place : Int) : Bool :=
  let scale := if place < 0 then 1 else 10 ^ place.toNat
  let shrink := if place < 0 then 10 ^ place.natAbs else 1
  let point := 4 * (whole * scale * unitsPerOne)
  if r.closed then decide (r.low * shrink ≤ point ∧ point ≤ r.high * shrink)
  else decide (r.low * shrink < point ∧ point < r.high * shrink)

/-- Of the two multiples of `10^place` around the number, the one that reads back; of two, the
nearer one. -/
def neighbour? (units : Nat) (place : Int) : Option Nat :=
  let (num, den) := scaled units unitsPerOne place
  let below := num / den
  let r := ReadBack.ofUnits units
  match r.contains below place, r.contains (below + 1) place with
  | true, true => some (nearest num den)
  | true, false => some below
  | false, true => some (below + 1)
  | false, false => none

/-- Seventeen digits always read back. -/
def enoughDigits : Nat := 17

/-- Searches the grids of `enoughDigits - tries + 1` digits and more. -/
def shortestFrom (units : Nat) (exponent : Int) : Nat → Scientific
  | 0 => ⟨[], 0⟩
  | tries + 1 =>
      let place := exponent - (enoughDigits - (tries + 1) : Nat)
      match neighbour? units place with
      | some whole => (Scientific.ofWhole whole place).trim
      | none => shortestFrom units exponent tries

/-- The fewest digits that read back as a positive number of units, and of those the nearest. -/
def shortest (units : Nat) : Scientific :=
  shortestFrom units (leadingExponent units unitsPerOne) enoughDigits

/-- The given number of significant digits of a positive number of units, zeros at the end left
out. -/
def significant (count units : Nat) : Scientific :=
  let place := leadingExponent units unitsPerOne - ((count : Int) - 1)
  let (num, den) := scaled units unitsPerOne place
  (Scientific.ofWhole (nearest num den) place).trim

/-- A positive number of units with the given number of decimal places. -/
def fixedPlaces (places units : Nat) : List Char :=
  let ds := paddedNumeral (places + 1) (nearest (units * 10 ^ places) unitsPerOne)
  let whole := ds.length - places
  ds.take whole ++ '.' :: ds.drop whole

end TableFlow.Decimal
