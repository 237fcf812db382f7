import TableFlow.Proofs.Cell.WholeText
import TableFlow.Proofs.Reduction.Extremes

/-!
# Order statistics

The number at a place of the order is told by counting: at most as many numbers as the place says
are less, and more than that are at most as large. Counting does not ask how the numbers are
sorted, and two numbers that are counted alike are equal. The median is the number at the middle
place, and it lies between the two extremes.

## Main results

* `Reduction.exists_atRank?`: the number at a place of the sorted list is counted as the place says.
* `Reduction.IsAtRank.numEq`: a place tells its number.
* `Reduction.median_between_extremes`: the median and the extremes of some numbers.
-/

namespace TableFlow

namespace Binary64

theorem le_refl_of_not_isNaN {x : Binary64} (h : x.isNaN = false) : x.le x := by
  obtain ⟨place, hPlace⟩ := exists_rank_of_not_isNaN h
  exact le_iff.2 ⟨place, place, hPlace, hPlace, Int.le_refl place⟩

/-- Of two numbers either the first one is less, or the second one is at most as large. -/
theorem not_lt_iff_le {x y : Binary64} (hx : x.isNaN = false) (hy : y.isNaN = false) :
    ¬ x.lt y ↔ y.le x := by
  obtain ⟨m, hm⟩ := exists_rank_of_not_isNaN hx
  obtain ⟨n, hn⟩ := exists_rank_of_not_isNaN hy
  rw [lt, le, compareRanks, compareRanks, hm, hn]
  simp only [decide_eq_true_eq]
  omega

theorem lt_of_le_of_lt {x y z : Binary64} (h : x.le y) (h' : y.lt z) : x.lt z := by
  obtain ⟨m, n, hx, hy, hLess⟩ := le_iff.1 h
  obtain ⟨n', k, hy', hz, hLess'⟩ := lt_iff.1 h'
  cases hy.symm.trans hy'
  exact lt_iff.2 ⟨m, k, hx, hz, Int.lt_of_le_of_lt hLess hLess'⟩

theorem isNaN_of_le {x y : Binary64} (h : x.le y) : x.isNaN = false ∧ y.isNaN = false := by
  obtain ⟨m, n, hx, hy, -⟩ := le_iff.1 h
  constructor
  · cases x with
    | nan => cases hx
    | _ => rfl
  · cases y with
    | nan => cases hy
    | _ => rfl

end Binary64

namespace Reduction

/-- At most `rank` of the numbers are less than `m`, and more than `rank` of them are less or
equal. -/
structure IsAtRank (rank : Nat) (xs : List Binary64) (m : Binary64) : Prop where
  below : xs.countP (·.lt m) ≤ rank
  upTo : rank < xs.countP (·.le m)

section

variable {xs : List Binary64} {rank : Nat} {m m' : Binary64}

theorem IsAtRank.isNaN_eq_false (h : IsAtRank rank xs m) : m.isNaN = false := by
  obtain ⟨x, -, hx⟩ := List.countP_pos_iff.1 (Nat.zero_lt_of_lt h.upTo)
  exact (Binary64.isNaN_of_le hx).2

/-- Where one number is less than another one, it does not come at the same place. -/
theorem IsAtRank.not_lt (h : IsAtRank rank xs m) (h' : IsAtRank rank xs m') : ¬ m.lt m' := by
  intro hLess
  have hCount : xs.countP (·.le m) ≤ xs.countP (·.lt m') :=
    List.countP_mono_left fun x _ hx => Binary64.lt_of_le_of_lt hx hLess
  have hUpTo := h.upTo
  have hBelow := h'.below
  omega

/-- A place tells its number, up to the sign of a zero. -/
theorem IsAtRank.numEq (h : IsAtRank rank xs m) (h' : IsAtRank rank xs m') : m.numEq m' := by
  have hm := h.isNaN_eq_false
  have hm' := h'.isNaN_eq_false
  have hAbove : m'.le m := (Binary64.not_lt_iff_le hm hm').1 (h.not_lt h')
  have hBelow : m.le m' := (Binary64.not_lt_iff_le hm' hm).1 (h'.not_lt h)
  obtain ⟨place, hPlace⟩ := Binary64.exists_rank_of_not_isNaN hm
  have hPlace' : m'.rank = some place :=
    (Binary64.rank_eq_of_le_of_le hAbove hBelow).trans hPlace
  exact Binary64.numEq_of_rank hPlace hPlace'

/-- Counting in a sorted list: what stands before a number is at most as large, and what stands
behind it is not less. -/
theorem isAtRank_of_sorted {front back : List Binary64} {m : Binary64}
    (hSorted : (front ++ m :: back).Pairwise (·.le ·)) (hm : m.isNaN = false) :
    IsAtRank front.length (front ++ m :: back) m := by
  obtain ⟨-, hBehind, hBefore⟩ := List.pairwise_append.1 hSorted
  have hFront : front.countP (·.le m) = front.length :=
    List.countP_eq_length.2 fun x hx => hBefore x hx m List.mem_cons_self
  have hBack : (m :: back).countP (·.lt m) = 0 := by
    refine List.countP_eq_zero.2 fun x hx => ?_
    have hAbove : m.le x := by
      rcases List.mem_cons.1 hx with rfl | hx
      · exact Binary64.le_refl_of_not_isNaN hm
      · exact (List.pairwise_cons.1 hBehind).1 x hx
    exact (Binary64.not_lt_iff_le (Binary64.isNaN_of_le hAbove).2 hm).2 hAbove
  have hSelf : 0 < (m :: back).countP (·.le m) :=
    List.countP_pos_iff.2 ⟨m, List.mem_cons_self, Binary64.le_refl_of_not_isNaN hm⟩
  constructor
  · rw [List.countP_append, hBack, Nat.add_zero]
    exact List.countP_le_length
  · rw [List.countP_append, hFront]
    omega

variable (hNumbers : ∀ x ∈ xs, x.isNaN = false)

include hNumbers

/-- The sorted list of numbers that a place is looked up in. -/
theorem exists_sorted (rank : Nat) :
    ∃ ys : List Binary64, ys.Perm xs ∧ ys.Pairwise (·.le ·) ∧ atRank? rank xs = ys[rank]? := by
  have hTrans : ∀ x y z : Binary64, (y.isNaN || x.le y) → (z.isNaN || y.le z) →
      (z.isNaN || x.le z) := by
    intro x y z
    rw [placeLe_rank, placeLe_rank, placeLe_rank]
    exact placeLe_trans _ _ _
  have hTotal : ∀ x y : Binary64, (y.isNaN || x.le y) || (x.isNaN || y.le x) := by
    intro x y
    rw [placeLe_rank, placeLe_rank]
    exact placeLe_total _ _
  refine ⟨_, List.mergeSort_perm xs _, ?_, rfl⟩
  refine (List.pairwise_mergeSort hTrans hTotal xs).imp_of_mem fun _ hy hLe => ?_
  rwa [hNumbers _ ((List.mergeSort_perm xs _).mem_iff.1 hy), Bool.false_or] at hLe

/-- The number at a place is one of the numbers, and is counted as the place says. -/
theorem exists_atRank? (hRank : rank < xs.length) :
    ∃ m ∈ xs, atRank? rank xs = some m ∧ IsAtRank rank xs m := by
  obtain ⟨ys, hPerm, hSorted, hFound⟩ := exists_sorted hNumbers rank
  have hInside : rank < ys.length := by rwa [hPerm.length_eq]
  have hMember : ys[rank] ∈ xs := hPerm.mem_iff.1 (List.getElem_mem hInside)
  refine ⟨ys[rank], hMember, by rw [hFound, List.getElem?_eq_getElem hInside], ?_⟩
  have hSplit : ys = ys.take rank ++ ys[rank] :: ys.drop (rank + 1) := by
    rw [← List.drop_eq_getElem_cons hInside, List.take_append_drop]
  have hLength : (ys.take rank).length = rank := List.length_take_of_le (Nat.le_of_lt hInside)
  rw [hSplit] at hSorted
  have hCounted := isAtRank_of_sorted hSorted (hNumbers _ hMember)
  rw [← hSplit, hLength] at hCounted
  exact ⟨hPerm.countP_eq _ ▸ hCounted.below, hPerm.countP_eq _ ▸ hCounted.upTo⟩

end

/-- **The median and the extremes of some numbers are exact**, whatever their order and their
repetitions are. All three are members of the list. No member is less than the least or greater
than the greatest one. At most half of the members are less than the median, one more than half, or
still more, are at most as large, and so the median lies between the extremes. Counting tells the
median: each number for which these counts hold is equal to it. -/
theorem median_between_extremes {xs : List Binary64} (hSome : xs ≠ [])
    (hNumbers : ∀ x ∈ xs, x.isNaN = false) :
    ∃ least ∈ xs, ∃ median ∈ xs, ∃ greatest ∈ xs,
      Reduction.least.reduce xs = .float least ∧ Reduction.median.reduce xs = .float median ∧
      Reduction.greatest.reduce xs = .float greatest ∧
      (∀ x ∈ xs, least.le x ∧ x.le greatest) ∧ least.le median ∧ median.le greatest ∧
      xs.countP (·.lt median) ≤ xs.length / 2 ∧ xs.length / 2 + 1 ≤ xs.countP (·.le median) ∧
      ∀ m, xs.countP (·.lt m) ≤ xs.length / 2 → xs.length / 2 + 1 ≤ xs.countP (·.le m) →
        m.numEq median := by
  have hMiddle : xs.length / 2 < xs.length :=
    Nat.div_lt_self (List.length_pos_iff.2 hSome) (by decide)
  obtain ⟨least, hLeastMem, hLeast, hAbove⟩ := exists_least? hNumbers hSome
  obtain ⟨median, hMedianMem, hMedian, hRank⟩ := exists_atRank? hNumbers hMiddle
  obtain ⟨greatest, hGreatestMem, hGreatest, hBelow⟩ := exists_greatest? hNumbers hSome
  refine ⟨least, hLeastMem, median, hMedianMem, greatest, hGreatestMem, ?_, ?_, ?_,
    fun x hx => ⟨hAbove x hx, hBelow x hx⟩, hAbove _ hMedianMem, hBelow _ hMedianMem, hRank.below,
    hRank.upTo, fun m hLess hUpTo => IsAtRank.numEq ⟨hLess, hUpTo⟩ hRank⟩
  · rw [reduce, hLeast, cellOfNumber?]
  · rw [reduce, median?, hMedian, cellOfNumber?]
  · rw [reduce, hGreatest, cellOfNumber?]

/-- Six numbers, both infinities, both zeros, and one that is repeated. -/
def repeatedNumbers : List Binary64 :=
  [.nearestInt 3, .infinite true, .zero, .nearestInt 3, Binary64.zero.neg, .infinite false]

theorem median_between_extremes_repeatedNumbers :
    repeatedNumbers ≠ [] ∧ (∀ x ∈ repeatedNumbers, x.isNaN = false) ∧
      ∃ median ∈ repeatedNumbers, Reduction.median.reduce repeatedNumbers = .float median ∧
        repeatedNumbers.countP (·.lt median) ≤ 3 ∧ 4 ≤ repeatedNumbers.countP (·.le median) ∧
        (Binary64.nearestInt 3).numEq median := by
  have hSome : repeatedNumbers ≠ [] := List.cons_ne_nil _ _
  have hNumbers : ∀ x ∈ repeatedNumbers, x.isNaN = false := by decide +kernel
  obtain ⟨-, -, median, hMember, -, -, -, hMedian, -, -, -, -, hLess, hUpTo, hOnly⟩ :=
    median_between_extremes hSome hNumbers
  exact ⟨hSome, hNumbers, median, hMember, hMedian, hLess, hUpTo,
    hOnly _ (by decide +kernel) (by decide +kernel)⟩

end Reduction

end TableFlow
