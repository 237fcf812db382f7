import TableFlow.Binary64.Basic

/-!
# Rounding keeps the order

A larger number is never rounded to a smaller one. So the whole numbers that the format reaches are
those up to some size, and they are shorter than `2¹⁰²⁴`.

## Main results

* `nearestUnits_mono`: rounding counts of units keeps their order.
* `ofInt?_isSome_of_le`: a whole number between numbers that the format reaches is reached.
* `natAbs_lt_of_ofInt?_isSome`: the format does not reach beyond `2¹⁰²⁴`.
-/

namespace TableFlow

/-- A quotient that is larger is not rounded to a smaller whole number. -/
theorem nearest_mono {m n : Nat} (den : Nat) (h : m ≤ n) : nearest m den ≤ nearest n den := by
  have hFloor : m / den ≤ n / den := Nat.div_le_div_right h
  rcases Nat.lt_or_eq_of_le hFloor with hLess | hSame
  · have hUpper := nearest_le m den
    have hLower := le_nearest n den
    omega
  · have hm := Nat.div_add_mod m den
    have hn := Nat.div_add_mod n den
    rw [← hSame] at hn
    have hRest : m % den ≤ n % den := by omega
    simp only [nearest, ← hSame]
    split <;> split <;> omega

namespace Binary64

/-- No number is rounded below the power of two that it reaches. -/
theorem two_pow_log2_le_nearestUnits {n : Nat} (h : n ≠ 0) : 2 ^ n.log2 ≤ nearestUnits n 1 := by
  have hSelf : 2 ^ n.log2 ≤ n := Nat.log2_self_le h
  have hExcess : excessBits n ≤ n.log2 := Nat.sub_le _ _
  have hPower : 2 ^ n.log2 = 2 ^ (n.log2 - excessBits n) * 2 ^ excessBits n := by
    rw [← Nat.pow_add, Nat.sub_add_cancel hExcess]
  have hFloor : 2 ^ (n.log2 - excessBits n) ≤ n / 2 ^ excessBits n := by
    rw [Nat.le_div_iff_mul_le (Nat.two_pow_pos _), ← hPower]
    exact hSelf
  unfold nearestUnits
  rw [Nat.div_one, Nat.one_mul, hPower]
  exact Nat.mul_le_mul_right _ (Nat.le_trans hFloor (le_nearest _ _))

/-- No number is rounded beyond the next power of two, nor beyond 53 bits. -/
theorem nearestUnits_le_two_pow (n : Nat) : nearestUnits n 1 ≤ 2 ^ (53 + excessBits n) := by
  have hFloor : n / 2 ^ excessBits n < 2 ^ 53 := by
    apply Nat.div_lt_of_lt_mul
    rw [← Nat.pow_add, Nat.add_comm]
    exact lt_two_pow_excessBits n
  have hNearest := nearest_le n (2 ^ excessBits n)
  unfold nearestUnits
  rw [Nat.div_one, Nat.one_mul, Nat.pow_add]
  exact Nat.mul_le_mul_right _ (by omega)

/-- Rounding counts of units keeps their order. -/
theorem nearestUnits_mono {m n : Nat} (h : m ≤ n) : nearestUnits m 1 ≤ nearestUnits n 1 := by
  by_cases hZero : m = 0
  · rw [hZero, nearestUnits_of_isMagnitude isMagnitude_zero]
    exact Nat.zero_le _
  · have hLog : m.log2 ≤ n.log2 := by
      rw [Nat.le_log2 (by omega)]
      exact Nat.le_trans (Nat.log2_self_le hZero) h
    rcases Nat.lt_or_ge (excessBits m) (excessBits n) with hLess | hSame
    · have hBetween : 53 + excessBits m ≤ n.log2 := by
        unfold excessBits at *
        omega
      calc nearestUnits m 1 ≤ 2 ^ (53 + excessBits m) := nearestUnits_le_two_pow m
        _ ≤ 2 ^ n.log2 := Nat.pow_le_pow_right (by decide) hBetween
        _ ≤ nearestUnits n 1 := two_pow_log2_le_nearestUnits (by omega)
    · have hGrid : excessBits m = excessBits n := by
        unfold excessBits at *
        omega
      unfold nearestUnits
      simp only [Nat.div_one, Nat.one_mul, hGrid]
      exact Nat.mul_le_mul_right _ (nearest_mono _ h)

/-! ## The whole numbers that the format reaches -/

theorem ofInt?_isSome_iff (n : Int) :
    (ofInt? n).isSome ↔ nearestUnits (n.natAbs * unitsPerOne) 1 < unitsLimit := by
  unfold ofInt? nearestInt ofRatio ofUnitRatio
  dsimp only
  split
  · next hReached => simp [isFinite, hReached]
  · next hReached => simp [isFinite, hReached]

/-- A whole number that is not larger than one that the format reaches is reached. -/
theorem ofInt?_isSome_of_le {m n : Int} (h : m.natAbs ≤ n.natAbs) (hn : (ofInt? n).isSome) :
    (ofInt? m).isSome := by
  rw [ofInt?_isSome_iff] at hn ⊢
  exact Nat.lt_of_le_of_lt (nearestUnits_mono (Nat.mul_le_mul_right _ h)) hn

/-- What is rounded below a power of two is below it. -/
theorem lt_two_pow_of_nearestUnits_lt {n bits : Nat} (h : nearestUnits n 1 < 2 ^ bits) :
    n < 2 ^ bits := by
  rcases Nat.lt_or_ge n (2 ^ bits) with hSmall | hLarge
  · exact hSmall
  · exfalso
    have hZero : n ≠ 0 := by
      have := Nat.two_pow_pos bits
      omega
    have hLog : bits ≤ n.log2 := (Nat.le_log2 hZero).2 hLarge
    have hRounded : 2 ^ bits ≤ nearestUnits n 1 :=
      Nat.le_trans (Nat.pow_le_pow_right (by decide) hLog) (two_pow_log2_le_nearestUnits hZero)
    omega

private theorem lt_two_pow_of_mul_lt {n bits low high : Nat} (hBits : high = bits + low)
    (h : n * 2 ^ low < 2 ^ high) : n < 2 ^ bits := by
  rw [hBits, Nat.pow_add] at h
  exact Nat.lt_of_mul_lt_mul_right h

/-- The format does not reach beyond `2¹⁰²⁴`. -/
theorem natAbs_lt_of_ofInt?_isSome {n : Int} (h : (ofInt? n).isSome) : n.natAbs < 2 ^ 1024 := by
  rw [ofInt?_isSome_iff] at h
  unfold unitsPerOne unitsLimit at h
  exact @lt_two_pow_of_mul_lt n.natAbs 1024 1074 2098 rfl
    (@lt_two_pow_of_nearestUnits_lt _ 2098 h)

end Binary64

end TableFlow
