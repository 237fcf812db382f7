import Mathlib.Data.List.Perm.Basic
import Mathlib.Order.Lattice
import TableFlow.Grouping
import TableFlow.Proofs.Cell.SameValue

/-!
# Reductions that ignore the order

Counting, the median and the two extremes depend on the numbers, not on their order. What they give
is told by the places that the numbers have: an extreme is at the least or greatest place, and the
median is at the place in the middle of the sorted places. Sums are rounded after each step, so
neither they nor means are among these reductions.

## Main results

* `Reduction.sameValue_reduce`: on the same numbers in two orders the reductions give equal cells.
-/

namespace TableFlow

open Binary64 (rank)

/-- The same numbers in any order, up to the signs of zeros. -/
def SameNumbers (xs ys : List Binary64) : Prop := (xs.map rank).Perm (ys.map rank)

theorem SameNumbers.length_eq {xs ys : List Binary64} (h : SameNumbers xs ys) :
    xs.length = ys.length := by
  simpa using List.Perm.length_eq h

theorem rank_isSome (x : Binary64) : x.rank.isSome = !x.isNaN := by
  cases x <;> rfl

/-- Numbers that are no numbers can be left out. -/
theorem SameNumbers.filter_not_isNaN {xs ys : List Binary64} (h : SameNumbers xs ys) :
    SameNumbers (xs.filter (!·.isNaN)) (ys.filter (!·.isNaN)) := by
  have hPlaces : ∀ zs : List Binary64,
      (zs.filter (!·.isNaN)).map rank = (zs.map rank).filter Option.isSome := by
    intro zs
    rw [List.filter_map]
    exact congrArg (List.map rank) (List.filter_congr fun z _ => (rank_isSome z).symm)
  unfold SameNumbers
  rw [hPlaces, hPlaces]
  exact List.Perm.filter _ h

namespace Reduction

/-- The reductions that do not depend on the order of the numbers. -/
def ignoringOrder : List Reduction := [.count, .median, .least, .greatest]

/-! ## Extremes -/

/-- The step of an extreme takes one of two places, NaN left out. -/
theorem rank_step {relation : Int → Int → Bool} {choose : Int → Int → Int}
    (hChoose : ∀ m n, choose m n = if relation m n then m else n) (best x : Binary64) :
    (if x.isNaN || Binary64.compareRanks relation best x then best else x).rank =
      Option.merge choose best.rank x.rank := by
  cases hx : x.rank with
  | none =>
      have hNaN : x = .nan := by
        cases x with
        | nan => rfl
        | _ => cases hx
      rw [hNaN]
      exact Option.merge_none_right.symm
  | some n =>
      have hNumber : x.isNaN = false := by
        cases x with
        | nan => cases hx
        | _ => rfl
      rw [hNumber, Bool.false_or, Binary64.compareRanks, hx]
      cases hBest : best.rank with
      | none => simpa using hx
      | some m =>
          show (if relation m n then best else x).rank = some (choose m n)
          rw [hChoose]
          split <;> assumption

/-- The place of an extreme is found among the places. -/
theorem rank_extreme {relation : Int → Int → Bool} {choose : Int → Int → Int}
    (hChoose : ∀ m n, choose m n = if relation m n then m else n) (xs : List Binary64)
    (bound : Binary64) :
    (xs.foldl (fun best x =>
        if x.isNaN || Binary64.compareRanks relation best x then best else x) bound).rank =
      (xs.map rank).foldl (Option.merge choose) bound.rank := by
  induction xs generalizing bound with
  | nil => rfl
  | cons x xs ih => rw [List.foldl_cons, ih, rank_step hChoose, List.map_cons, List.foldl_cons]

theorem rank_extreme?_eq {relation : Int → Int → Bool} (choose : Int → Int → Int)
    [Std.Commutative choose] [Std.Associative choose]
    (hChoose : ∀ m n, choose m n = if relation m n then m else n) (bound : Binary64)
    {xs ys : List Binary64} (h : SameNumbers xs ys) :
    (extreme? bound (Binary64.compareRanks relation) xs).map rank =
      (extreme? bound (Binary64.compareRanks relation) ys).map rank := by
  have hLength := h.length_eq
  cases xs with
  | nil =>
      rw [List.length_nil, eq_comm, List.length_eq_zero_iff] at hLength
      rw [hLength]
  | cons x xs =>
      cases ys with
      | nil => cases hLength
      | cons y ys =>
          refine congrArg some ?_
          rw [rank_extreme hChoose, rank_extreme hChoose]
          exact h.foldl_eq bound.rank

theorem rank_least?_eq {xs ys : List Binary64} (h : SameNumbers xs ys) :
    (least? xs).map rank = (least? ys).map rank :=
  rank_extreme?_eq min (fun m n => by simp only [decide_eq_true_eq]; omega) _ h

theorem greatest?_eq (xs : List Binary64) :
    greatest? xs =
      extreme? (.infinite true) (Binary64.compareRanks fun m n => decide (n < m)) xs := by
  have hPrecedes : (fun x y : Binary64 => y.lt x) =
      Binary64.compareRanks fun m n => decide (n < m) := by
    funext x y
    rw [Binary64.lt, Binary64.compareRanks, Binary64.compareRanks]
    cases x.rank <;> cases y.rank <;> rfl
  rw [greatest?, hPrecedes]

theorem rank_greatest?_eq {xs ys : List Binary64} (h : SameNumbers xs ys) :
    (greatest? xs).map rank = (greatest? ys).map rank := by
  rw [greatest?_eq, greatest?_eq]
  exact rank_extreme?_eq max (fun m n => by simp only [decide_eq_true_eq]; omega) _ h

/-! ## Places in the sorted list -/

/-- The order of places; no place comes last. -/
def placeLe : Option Int → Option Int → Bool
  | _, none => true
  | none, some _ => false
  | some m, some n => decide (m ≤ n)

theorem placeLe_trans (a b c : Option Int) (h : placeLe a b) (h' : placeLe b c) : placeLe a c := by
  cases a <;> cases b <;> cases c <;> simp_all [placeLe]
  omega

theorem placeLe_total (a b : Option Int) : placeLe a b || placeLe b a := by
  cases a <;> cases b <;> simp [placeLe]
  omega

theorem placeLe_antisymm {a b : Option Int} (h : placeLe a b) (h' : placeLe b a) : a = b := by
  cases a <;> cases b <;> simp_all [placeLe]
  omega

/-- Numbers are sorted by their places. -/
theorem placeLe_rank (x y : Binary64) : (y.isNaN || x.le y) = placeLe x.rank y.rank := by
  cases x <;> cases y <;> rfl

theorem map_rank_atRank? (i : Nat) (xs : List Binary64) :
    (atRank? i xs).map rank = ((xs.map rank).mergeSort placeLe)[i]? := by
  rw [atRank?, ← List.getElem?_map, List.map_mergeSort fun x _ y _ => placeLe_rank x y]

theorem rank_median?_eq {xs ys : List Binary64} (h : SameNumbers xs ys) :
    (median? xs).map rank = (median? ys).map rank := by
  have hSorted : (xs.map rank).mergeSort placeLe = (ys.map rank).mergeSort placeLe := by
    refine List.Perm.eq_of_pairwise (fun a b _ _ => placeLe_antisymm)
      (List.pairwise_mergeSort placeLe_trans placeLe_total _)
      (List.pairwise_mergeSort placeLe_trans placeLe_total _) ?_
    exact (List.mergeSort_perm _ _).trans (h.trans (List.mergeSort_perm _ _).symm)
  unfold median?
  rw [map_rank_atRank?, map_rank_atRank?, hSorted, h.length_eq]

/-! ## Reductions -/

theorem sameValue_cellOfNumber? {x? y? : Option Binary64} (h : x?.map rank = y?.map rank) :
    (cellOfNumber? x?).SameValue (cellOfNumber? y?) := by
  cases x? with
  | none =>
      cases y? with
      | none => exact .refl _
      | some y => cases h
  | some x =>
      cases y? with
      | none => cases h
      | some y => exact Cell.SameValue.float_iff.2 (Option.some.inj h)

/-- A reduction that ignores the order gives equal cells for the same numbers. -/
theorem sameValue_reduce {operation : Reduction} (hOperation : operation ∈ ignoringOrder)
    {xs ys : List Binary64} (h : SameNumbers xs ys) :
    (operation.reduce xs).SameValue (operation.reduce ys) := by
  cases operation with
  | sum => exact absurd hOperation (by decide)
  | mean => exact absurd hOperation (by decide)
  | count => exact .inl (congrArg (fun n : Nat => Cell.int n) h.length_eq)
  | median => exact sameValue_cellOfNumber? (rank_median?_eq h)
  | least => exact sameValue_cellOfNumber? (rank_least?_eq h)
  | greatest => exact sameValue_cellOfNumber? (rank_greatest?_eq h)

end Reduction

end TableFlow
