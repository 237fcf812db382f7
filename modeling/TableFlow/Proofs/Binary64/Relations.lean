import TableFlow.Proofs.Reduction.Order

/-!
# Relations of binary64 numbers

Equality and the relations of order ask one question of two numbers: how do their places in the
order compare? If one of them is NaN, there is no answer, and no relation holds. Otherwise each
relation holds for some of the three answers, so what ties the relations together is told by cases
on the answer. Exchanging the numbers reverses it.

## Main results

* `Binary64.lt_eq`, `Binary64.le_eq` and `Binary64.numEq_eq`: the relations, told by the answer.
* `Binary64.order?_swap`: exchanging the numbers.
* `Binary64.isSome_order?`: two numbers are in the order unless one of them is NaN.
-/

namespace TableFlow.Binary64

/-- How the places of two numbers in the order compare, if both have one. -/
def order? (x y : Binary64) : Option Ordering :=
  match x.rank, y.rank with
  | some m, some n => some (Ord.compare m n)
  | _, _ => none

/-- A relation of places that is told by how they compare is one of numbers. -/
theorem compareRanks_eq {relation : Int → Int → Bool} {holds : Ordering → Bool}
    (h : ∀ m n, relation m n = holds (Ord.compare m n)) (x y : Binary64) :
    compareRanks relation x y = (order? x y).any holds := by
  unfold compareRanks order?
  cases x.rank with
  | none => rfl
  | some m =>
      cases y.rank with
      | none => rfl
      | some n => exact h m n

theorem lt_eq (x y : Binary64) : x.lt y = (order? x y).any (·.isLT) := by
  refine compareRanks_eq (fun m n => Bool.eq_iff_iff.2 ?_) x y
  simp [Ordering.isLT_iff_eq_lt, Int.compare_eq_lt]

theorem le_eq (x y : Binary64) : x.le y = (order? x y).any (·.isLE) := by
  refine compareRanks_eq (fun m n => Bool.eq_iff_iff.2 ?_) x y
  simp [Int.isLE_compare]

theorem numEq_eq (x y : Binary64) : x.numEq y = (order? x y).any (·.isEq) := by
  refine compareRanks_eq (fun m n => Bool.eq_iff_iff.2 ?_) x y
  simp [Ordering.isEq_iff_eq_eq]

/-- Exchanging the numbers reverses the answer. -/
theorem order?_swap (x y : Binary64) : order? y x = (order? x y).map Ordering.swap := by
  unfold order?
  cases x.rank with
  | none => cases y.rank <;> rfl
  | some m =>
      cases y.rank with
      | none => rfl
      | some n => exact congrArg some Std.OrientedCmp.eq_swap

/-- Two numbers are in the order unless one of them is NaN. -/
theorem isSome_order? (x y : Binary64) : (order? x y).isSome = (!x.isNaN && !y.isNaN) := by
  rw [← rank_isSome, ← rank_isSome, order?]
  cases x.rank with
  | none => rfl
  | some m => cases y.rank <;> rfl

end TableFlow.Binary64
