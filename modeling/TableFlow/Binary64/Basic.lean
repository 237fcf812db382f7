import TableFlow.Nearest

/-!
# Binary64 numbers

A finite binary64 number is a sign and a whole number of *units*, one unit being `2⁻¹⁰⁷⁴`, the
least positive number of the format. Which counts of units occur is the content of
`Binary64.IsMagnitude`: at most 53 significant bits, and less than `2¹⁰²⁴` in value.

Keeping the exact value of a number in the number itself makes each operation an operation on
whole numbers followed by one rounding, `Binary64.ofRatio`, and makes comparison the comparison of
whole numbers (`Binary64.rank`). Nothing here depends on the floating point of the machine.

## Main results

* `Binary64.isMagnitude_nearestUnits`: rounding lands on the grid of the format.
* `Binary64.nearestUnits_of_isMagnitude`: a number of the format is its own rounding.
-/

namespace TableFlow

namespace Binary64

/-- The number of units in one. -/
def unitsPerOne : Nat := 2 ^ 1074

/-- The units of the least power of two that is too large for the format. -/
def unitsLimit : Nat := 2 ^ 2098

/-- A count of units that a finite number has: at most 53 significant bits, below the limit. -/
def IsMagnitude (units : Nat) : Prop :=
  units < unitsLimit ∧ ∃ significand shift, significand < 2 ^ 53 ∧ units = significand * 2 ^ shift

end Binary64

/-- A binary64 number. The two zeros differ by their sign, and all NaNs are one. -/
inductive Binary64 where
  | nan
  | infinite (negative : Bool)
  | finite (negative : Bool) (units : Nat) (isMagnitude : Binary64.IsMagnitude units)
deriving DecidableEq

namespace Binary64

/-- The bits below the 53 leading bits of a count of units: they are rounded away. -/
def excessBits (units : Nat) : Nat := units.log2 - 52

/-- The count of units nearest to `num / den` among those with at most 53 significant bits; of two
equally near ones, the one with an even significand. -/
def nearestUnits (num den : Nat) : Nat :=
  nearest num (den * 2 ^ excessBits (num / den)) * 2 ^ excessBits (num / den)

theorem lt_two_pow_excessBits (units : Nat) : units < 2 ^ (53 + excessBits units) := by
  have h := @Nat.lt_log2_self units
  refine Nat.lt_of_lt_of_le h (Nat.pow_le_pow_right (by decide) ?_)
  unfold excessBits
  omega

/-- Rounding leaves at most 53 significant bits. -/
theorem exists_significand_nearestUnits (num den : Nat) :
    ∃ significand shift, significand < 2 ^ 53 ∧ nearestUnits num den = significand * 2 ^ shift := by
  have hFloor : num / (den * 2 ^ excessBits (num / den)) < 2 ^ 53 := by
    rw [← Nat.div_div_eq_div_mul]
    refine Nat.div_lt_of_lt_mul ?_
    rw [← Nat.pow_add, Nat.add_comm]
    exact lt_two_pow_excessBits _
  have hNearest := nearest_le num (den * 2 ^ excessBits (num / den))
  by_cases h : nearest num (den * 2 ^ excessBits (num / den)) < 2 ^ 53
  · exact ⟨_, _, h, rfl⟩
  · have hEq : nearest num (den * 2 ^ excessBits (num / den)) = 2 ^ 53 := by omega
    refine ⟨1, 53 + excessBits (num / den), by decide, ?_⟩
    rw [nearestUnits, hEq, ← Nat.pow_add, Nat.one_mul]

theorem isMagnitude_nearestUnits {num den : Nat} (h : nearestUnits num den < unitsLimit) :
    IsMagnitude (nearestUnits num den) :=
  ⟨h, exists_significand_nearestUnits num den⟩

/-- The excess bits of a number of the format are all zero. -/
theorem two_pow_excessBits_dvd {units : Nat} (h : IsMagnitude units) :
    2 ^ excessBits units ∣ units := by
  obtain ⟨_, significand, shift, hSignificand, rfl⟩ := h
  by_cases hZero : significand * 2 ^ shift = 0
  · simp [hZero]
  · refine Nat.dvd_trans (Nat.pow_dvd_pow 2 ?_) (Nat.dvd_mul_left _ _)
    have hLog : (significand * 2 ^ shift).log2 < 53 + shift := by
      rw [Nat.log2_lt hZero, Nat.pow_add]
      exact Nat.mul_lt_mul_of_pos_right hSignificand (Nat.two_pow_pos shift)
    unfold excessBits
    omega

/-- A number of the format is its own rounding. -/
theorem nearestUnits_of_isMagnitude {units : Nat} (h : IsMagnitude units) :
    nearestUnits units 1 = units := by
  obtain ⟨significand, hSignificand⟩ := two_pow_excessBits_dvd h
  unfold nearestUnits
  simp only [Nat.div_one, Nat.one_mul]
  generalize hShift : 2 ^ excessBits units = scale at *
  have hPos : 0 < scale := hShift ▸ Nat.two_pow_pos _
  rw [hSignificand, Nat.mul_comm scale significand, nearest_mul significand hPos]

/-- The number of the given sign nearest to `num / den` units; too large ones are infinite. -/
def ofUnitRatio (negative : Bool) (num den : Nat) : Binary64 :=
  if h : nearestUnits num den < unitsLimit then
    .finite negative (nearestUnits num den) (isMagnitude_nearestUnits h)
  else
    .infinite negative

/-- The number of the given sign nearest to `num / den`. -/
def ofRatio (negative : Bool) (num den : Nat) : Binary64 :=
  ofUnitRatio negative (num * unitsPerOne) den

theorem unitsLimit_pos : 0 < unitsLimit := by decide +kernel

theorem isMagnitude_zero : IsMagnitude 0 :=
  ⟨unitsLimit_pos, 0, 0, by decide, rfl⟩

/-- Positive zero. -/
def zero : Binary64 := .finite false 0 isMagnitude_zero

/-- The number nearest to a whole number, infinite when that is too large. -/
def nearestInt (n : Int) : Binary64 := ofRatio (decide (n < 0)) n.natAbs 1

instance : Inhabited Binary64 := ⟨zero⟩

/-- Neither infinite nor NaN. -/
def isFinite : Binary64 → Bool
  | .finite .. => true
  | _ => false

def isNaN : Binary64 → Bool
  | .nan => true
  | _ => false

/-- The number nearest to a whole number, if the format reaches that far. -/
def ofInt? (n : Int) : Option Binary64 :=
  let x := nearestInt n
  if x.isFinite then some x else none

/-- A whole number of units with its sign. -/
def signedUnits (negative : Bool) (units : Nat) : Int :=
  if negative then -(units : Int) else units

/-- The whole number that a number holds exactly, if it holds one. -/
def toInt? : Binary64 → Option Int
  | .finite negative units _ =>
      if units % unitsPerOne = 0 then some (signedUnits negative (units / unitsPerOne)) else none
  | _ => none

/-- The whole number next to a finite number on the side of zero. -/
def truncate? : Binary64 → Option Int
  | .finite negative units _ => some (signedUnits negative (units / unitsPerOne))
  | _ => none

end Binary64

end TableFlow
