import TableFlow.Proofs.Binary64.Difference

/-!
# Adding zero

Adding zero leaves every number as it is but negative zero, which becomes zero. A sum is negative
zero only if both sides are, so sums that start from zero never are, and then it makes no difference
whether a zero is added or nothing.

## Main results

* `add_zero_eq`: adding zero changes no number but negative zero.
* `add_ne_negativeZero`: a sum of numbers is negative zero only if the first one is.
-/

namespace TableFlow.Binary64

/-- Zero with a negative sign. -/
def negativeZero : Binary64 := .finite true 0 isMagnitude_zero

theorem zero_ne_negativeZero : zero ≠ negativeZero := by decide

theorem finite_add_finite (s t : Bool) {a b : Nat} (ha : IsMagnitude a) (hb : IsMagnitude b) :
    finite s a ha + finite t b hb =
      ofSignedUnits (s && t) (signedUnits s a + signedUnits t b) := by
  show (finite s a ha).add (finite t b hb) = _
  rw [add]

/-- A finite number is what its count of units and its sign are rounded to, negative zero apart. -/
theorem ofSignedUnits_signedUnits {negative : Bool} {units : Nat} (h : IsMagnitude units)
    (hNotZero : finite negative units h ≠ negativeZero) :
    ofSignedUnits false (signedUnits negative units) = finite negative units h := by
  have hSign : (if signedUnits negative units = 0 then false
      else decide (signedUnits negative units < 0)) = negative := by
    cases negative with
    | false =>
        show (if (units : Int) = 0 then false else decide ((units : Int) < 0)) = false
        split
        · rfl
        · exact decide_eq_false (by omega)
    | true =>
        have hUnits : units ≠ 0 := by
          rintro rfl
          exact hNotZero rfl
        show (if -(units : Int) = 0 then false else decide (-(units : Int) < 0)) = true
        rw [if_neg (by omega)]
        exact decide_eq_true (by omega)
  have hReached : nearestUnits units 1 < unitsLimit := by
    rw [nearestUnits_of_isMagnitude h]
    exact h.1
  rw [ofSignedUnits, hSign, natAbs_signedUnits, ofUnitRatio, dif_pos hReached]
  simp only [nearestUnits_of_isMagnitude h]

/-- Adding zero changes no number but negative zero. -/
theorem add_zero_eq {x : Binary64} (h : x ≠ negativeZero) : x + zero = x := by
  cases x with
  | nan => rfl
  | infinite negative => rfl
  | finite negative units hUnits =>
      have hNone : signedUnits negative units + signedUnits false 0 = signedUnits negative units :=
        Int.add_zero _
      rw [zero, finite_add_finite, hNone, Bool.and_false, ofSignedUnits_signedUnits hUnits h]

/-- A count of units is rounded to negative zero only if it is none, with a negative sign. -/
theorem eq_zero_of_ofSignedUnits {zeroSign : Bool} {n : Int}
    (h : ofSignedUnits zeroSign n = negativeZero) : n = 0 ∧ zeroSign = true := by
  unfold ofSignedUnits ofUnitRatio at h
  split at h
  · injection h with hSign hUnits
    have hNone : n = 0 := Int.natAbs_eq_zero.1 ((nearestUnits_eq_zero_iff _).1 hUnits)
    rw [if_pos hNone] at hSign
    exact ⟨hNone, hSign⟩
  · cases h

/-- A sum is negative zero only if both sides are. -/
theorem add_ne_negativeZero {x : Binary64} (h : x ≠ negativeZero) (y : Binary64) :
    x + y ≠ negativeZero := by
  cases x with
  | nan => exact nofun
  | infinite s =>
      cases y with
      | nan => exact nofun
      | infinite t =>
          show (if s = t then infinite s else nan) ≠ negativeZero
          split <;> exact nofun
      | finite t b hb => exact nofun
  | finite s a ha =>
      cases y with
      | nan => exact nofun
      | infinite t => exact nofun
      | finite t b hb =>
          intro hSum
          rw [finite_add_finite] at hSum
          obtain ⟨hNone, hSigns⟩ := eq_zero_of_ofSignedUnits hSum
          obtain ⟨rfl, rfl⟩ := Bool.and_eq_true_iff.1 hSigns
          have hUnits : -(a : Int) + -(b : Int) = 0 := hNone
          obtain rfl : a = 0 := by omega
          exact h rfl

end TableFlow.Binary64
