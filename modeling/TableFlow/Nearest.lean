/-!
# Rounding a quotient to the nearest whole number

Every place where this library turns an exact quotient into a whole number — the binary64 grid,
a fixed number of decimal places, a fixed number of significant digits — uses one rule: the
nearest whole number, and of two equally near ones the even one.

## Main results

* `nearest_le` and `le_nearest`: the result is the floor of the quotient or one more.
* `nearest_mul`: a quotient that is whole is its own nearest whole number.
-/

namespace TableFlow

/-- Powers with a whole exponent are the ones of the language, whatever else a module imports. -/
@[default_instance 20000]
instance (priority := 20000) instPowWhole {α : Type} [NatPow α] : Pow α Nat := instPowNat

/-- The whole number nearest to `num / den`; of two equally near ones, the even one. -/
def nearest (num den : Nat) : Nat :=
  let floor := num / den
  let rest := num % den
  if 2 * rest < den ∨ (2 * rest = den ∧ floor % 2 = 0) then floor else floor + 1

theorem le_nearest (num den : Nat) : num / den ≤ nearest num den := by
  simp only [nearest]
  split <;> omega

theorem nearest_le (num den : Nat) : nearest num den ≤ num / den + 1 := by
  simp only [nearest]
  split <;> omega

/-- A whole quotient is not moved. -/
theorem nearest_mul (n : Nat) {den : Nat} (h : 0 < den) : nearest (n * den) den = n := by
  unfold nearest
  simp [Nat.mul_div_cancel n h, h]

end TableFlow
