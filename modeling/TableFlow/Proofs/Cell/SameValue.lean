import TableFlow.Cell.Coercion
import TableFlow.Proofs.Binary64.Difference
import TableFlow.Row

/-!
# Cells of the same value

Equal numbers can be different cells: the two zeros are. No stage tells them apart by a text or a
number. A zero has the text of a whole number whatever its sign is, and all other equal numbers are
one number.

## Main results

* `Cell.SameValue.toText_eq` and `Cell.SameValue.rank_of_toNumber`: the views of such cells agree.
-/

namespace TableFlow

namespace Binary64

/-- Numbers at one place of the order are equal; NaN has no place. -/
theorem rank_eq_iff {x y : Binary64} : x.rank = y.rank ↔ x = y ∨ x.numEq y := by
  constructor
  · intro h
    cases hRank : x.rank with
    | some place =>
        refine .inr ?_
        rw [numEq, compareRanks, ← h, hRank]
        exact decide_eq_true rfl
    | none =>
        refine .inl ?_
        have hNaN : ∀ z : Binary64, z.rank = none → z = .nan := by rintro (_ | _ | _) ⟨⟩; rfl
        rw [hNaN x hRank, hNaN y (h ▸ hRank)]
  · rintro (rfl | h)
    · rfl
    · rw [numEq, compareRanks] at h
      split at h
      · next hx hy => rw [hx, hy, of_decide_eq_true h]
      · cases h

/-- Zeros are the only numbers that share their place in the order. -/
theorem eq_or_zero_of_rank_eq {x y : Binary64} (h : x.rank = y.rank) :
    x = y ∨ ∃ s t, x = .finite s 0 isMagnitude_zero ∧ y = .finite t 0 isMagnitude_zero := by
  cases x with
  | nan => exact .inl ((rank_eq_iff.1 h).resolve_right (by simp [numEq, compareRanks, rank]))
  | infinite s => exact .inl (eq_infinite_of_rank h.symm).symm
  | finite s units hUnits =>
      cases y with
      | nan => cases h
      | infinite t => exact .inl (eq_infinite_of_rank h)
      | finite t units' hUnits' =>
          rw [rank_finite, rank_finite, Option.some.injEq] at h
          have hSame : units = units' := by
            rw [← natAbs_signedUnits s units, h, natAbs_signedUnits]
          subst hSame
          by_cases hZero : units = 0
          · subst hZero
            exact .inr ⟨s, t, rfl, rfl⟩
          · refine .inl ?_
            by_cases hSign : s = t
            · rw [hSign]
            · rw [Bool.eq_not_of_ne hSign, signedUnits_not] at h
              have hSelf := natAbs_signedUnits t units
              omega

theorem cellText_zero (negative : Bool) : (Binary64.finite negative 0 isMagnitude_zero).cellText =
    String.ofList (Decimal.signedNumeral 0) := by
  have hWhole : (Binary64.finite negative 0 isMagnitude_zero).toInt? = some 0 := by
    rw [toInt?, Nat.zero_mod, if_pos rfl, Nat.zero_div]
    cases negative <;> rfl
  simp only [cellText, hWhole]
  rfl

theorem cellText_eq_of_rank_eq {x y : Binary64} (h : x.rank = y.rank) :
    x.cellText = y.cellText := by
  rcases eq_or_zero_of_rank_eq h with rfl | ⟨s, t, rfl, rfl⟩
  · rfl
  · rw [cellText_zero, cellText_zero]

end Binary64

namespace Cell

/-- The same cell, or numbers that are equal. -/
def SameValue (a b : Cell) : Prop :=
  a = b ∨ ∃ x y : Binary64, a = .float x ∧ b = .float y ∧ x.numEq y

namespace SameValue

variable {a b : Cell}

theorem refl (a : Cell) : a.SameValue a := .inl rfl

theorem float_iff {x y : Binary64} : SameValue (.float x) (.float y) ↔ x.rank = y.rank := by
  rw [Binary64.rank_eq_iff, SameValue, Cell.float.injEq]
  refine or_congr_right ⟨?_, fun h => ⟨x, y, rfl, rfl, h⟩⟩
  rintro ⟨_, _, ⟨⟩, ⟨⟩, h⟩
  exact h

/-- Cells of the same value are one cell, or two numbers at one place of the order. -/
theorem eq_or_rank_eq (h : a.SameValue b) :
    a = b ∨ ∃ x y : Binary64, a = .float x ∧ b = .float y ∧ x.rank = y.rank := by
  rcases h with rfl | ⟨x, y, rfl, rfl, hEqual⟩
  · exact .inl rfl
  · exact .inr ⟨x, y, rfl, rfl, Binary64.rank_eq_iff.2 (.inr hEqual)⟩

theorem toText_eq (h : a.SameValue b) : a.toText = b.toText := by
  rcases h.eq_or_rank_eq with rfl | ⟨x, y, rfl, rfl, hRank⟩
  · rfl
  · exact congrArg Except.ok (Binary64.cellText_eq_of_rank_eq hRank)

/-- The numbers of such cells are at one place of the order, or there are none. -/
theorem rank_of_toNumber (h : a.SameValue b) :
    a.toNumber.map Binary64.rank = b.toNumber.map Binary64.rank := by
  rcases h.eq_or_rank_eq with rfl | ⟨x, y, rfl, rfl, hRank⟩
  · rfl
  · exact congrArg Except.ok hRank

end SameValue

end Cell

/-- The same columns, with cells of the same value. -/
structure Row.SameValues (row row' : Row) : Prop where
  columns : row.columns = row'.columns
  cells : ∀ column, (row.get column).SameValue (row'.get column)

namespace Row.SameValues

theorem refl (row : Row) : row.SameValues row := ⟨rfl, fun _ => .refl _⟩

end Row.SameValues

end TableFlow
