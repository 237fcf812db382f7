import Mathlib.Data.List.Induction
import Mathlib.Order.Bounds.Basic
import TableFlow.Proofs.Binary64.Difference
import TableFlow.Proofs.Reduction.Order
import TableFlow.Proofs.Success

/-!
# The least and the greatest number

The least number is found by a fold that starts at infinity. It stands at the least of the places
that the numbers have, and there is none exactly if there are no numbers. The greatest number is
treated in the same way. As a least element of several sets together is a least one of their least
elements, extremes of parts give the extreme of the whole.

## Main results

* `isLeast_leasts_iff` and `isGreatest_greatests_iff`: extremes of parts.
* `Reduction.rank_reduce_least_iff` and `Reduction.rank_reduce_greatest_iff`: where extremes are.
* `columnPlaces_eq` and `length_of_columnNumbers`: the numbers of a column, told from its cells.
-/

namespace TableFlow

open Binary64 (rank)

/-! ## Extremes of parts -/

section

variable {ι α : Type} {indices : List ι} {S : ι → Set α} {a : α}

/-- The least element of all parts is the least one of their least elements. -/
theorem isLeast_leasts_iff [Preorder α]
    (hLeast : ∀ i ∈ indices, (S i).Nonempty → ∃ b, IsLeast (S i) b) :
    IsLeast {b | ∃ i ∈ indices, IsLeast (S i) b} a ↔ IsLeast {b | ∃ i ∈ indices, b ∈ S i} a := by
  constructor
  · rintro ⟨⟨i, hi, hMem, -⟩, hBelow⟩
    refine ⟨⟨i, hi, hMem⟩, ?_⟩
    rintro b ⟨j, hj, hb⟩
    obtain ⟨c, hc⟩ := hLeast j hj ⟨b, hb⟩
    exact le_trans (hBelow ⟨j, hj, hc⟩) (hc.2 hb)
  · rintro ⟨⟨i, hi, hMem⟩, hBelow⟩
    refine ⟨⟨i, hi, hMem, fun b hb => hBelow ⟨i, hi, hb⟩⟩, ?_⟩
    rintro b ⟨j, hj, hb, -⟩
    exact hBelow ⟨j, hj, hb⟩

/-- The greatest element of all parts is the greatest one of their greatest elements. -/
theorem isGreatest_greatests_iff [Preorder α]
    (hGreatest : ∀ i ∈ indices, (S i).Nonempty → ∃ b, IsGreatest (S i) b) :
    IsGreatest {b | ∃ i ∈ indices, IsGreatest (S i) b} a ↔
      IsGreatest {b | ∃ i ∈ indices, b ∈ S i} a :=
  isLeast_leasts_iff (α := αᵒᵈ) hGreatest

/-- A fold that takes minima finds the least of all elements, the first one included. -/
theorem isLeast_foldl_min_cons [LinearOrder α] (first : α) (xs : List α) :
    IsLeast {x | x ∈ first :: xs} (xs.foldl min first) := by
  induction xs using List.reverseRecOn with
  | nil => exact ⟨List.mem_cons_self, fun x hx => (List.mem_singleton.1 hx).ge⟩
  | append_singleton xs last ih =>
      have hMore : {x | x ∈ first :: (xs ++ [last])} = insert last {x | x ∈ first :: xs} := by
        ext x
        simp only [Set.mem_ofPred_eq, Set.mem_insert_iff, List.mem_cons, List.mem_append,
          List.not_mem_nil, or_false]
        rw [← or_assoc, or_comm]
      rw [hMore, List.foldl_append, List.foldl_cons, List.foldl_nil, min_comm]
      exact ih.insert last

theorem exists_isLeast_of_mem [LinearOrder α] {x : α} {xs : List α} (h : x ∈ xs) :
    ∃ b, IsLeast {y | y ∈ xs} b := by
  obtain ⟨first, rest, rfl⟩ := List.exists_cons_of_ne_nil (List.ne_nil_of_mem h)
  exact ⟨_, isLeast_foldl_min_cons first rest⟩

theorem exists_isGreatest_of_mem [LinearOrder α] {x : α} {xs : List α} (h : x ∈ xs) :
    ∃ b, IsGreatest {y | y ∈ xs} b :=
  exists_isLeast_of_mem (α := αᵒᵈ) h

/-- The least of some elements below a bound, found by going down from the bound. -/
theorem isLeast_foldl_min [LinearOrder α] {bound : α} {xs : List α} (hSome : xs ≠ [])
    (hBound : ∀ x ∈ xs, x ≤ bound) : IsLeast {x | x ∈ xs} (xs.foldl min bound) := by
  obtain ⟨hMem, hBelow⟩ := isLeast_foldl_min_cons bound xs
  refine ⟨?_, fun x hx => hBelow (List.mem_cons_of_mem _ hx)⟩
  obtain hStart | hMem := List.mem_cons.1 hMem
  · obtain ⟨x, hx⟩ := List.exists_mem_of_ne_nil xs hSome
    have hFound : xs.foldl min bound = x :=
      le_antisymm (hBelow (List.mem_cons_of_mem _ hx)) ((hBound x hx).trans hStart.ge)
    exact hFound ▸ hx
  · exact hMem

theorem isGreatest_foldl_max [LinearOrder α] {bound : α} {xs : List α} (hSome : xs ≠ [])
    (hBound : ∀ x ∈ xs, bound ≤ x) : IsGreatest {x | x ∈ xs} (xs.foldl max bound) :=
  isLeast_foldl_min (α := αᵒᵈ) hSome hBound

end

/-! ## Places of numbers -/

namespace Binary64

/-- No number is beyond the infinities. -/
theorem natAbs_le_of_rank {x : Binary64} {place : Int} (h : x.rank = some place) :
    place.natAbs ≤ unitsLimit := by
  cases x with
  | nan => cases h
  | infinite negative =>
      cases h
      exact Nat.le_of_eq (natAbs_signedUnits negative unitsLimit)
  | finite negative units hUnits =>
      cases h
      exact Nat.le_of_lt (natAbs_rank_lt hUnits)

theorem lt_iff {x y : Binary64} :
    x.lt y ↔ ∃ m n, x.rank = some m ∧ y.rank = some n ∧ m < n := by
  rw [lt, compareRanks]
  cases x.rank <;> cases y.rank <;> simp

theorem le_iff {x y : Binary64} :
    x.le y ↔ ∃ m n, x.rank = some m ∧ y.rank = some n ∧ m ≤ n := by
  rw [le, compareRanks]
  cases x.rank <;> cases y.rank <;> simp

theorem rank_eq_of_le_of_le {x y : Binary64} (h : x.le y) (h' : y.le x) : x.rank = y.rank := by
  obtain ⟨m, n, hx, hy, hLess⟩ := le_iff.1 h
  obtain ⟨n', m', hy', hx', hGreater⟩ := le_iff.1 h'
  cases hx.symm.trans hx'
  cases hy.symm.trans hy'
  rw [hx, hy, le_antisymm hLess hGreater]

/-- A number that is not NaN has a place in the order. -/
theorem exists_rank_of_not_isNaN {x : Binary64} (h : x.isNaN = false) :
    ∃ place, x.rank = some place :=
  Option.isSome_iff_exists.1 ((rank_isSome x).trans (congrArg not h))

/-- Nothing is beyond infinity. -/
theorem not_infinite_lt (x : Binary64) : (infinite false).lt x = false := by
  rw [Bool.eq_false_iff, ne_eq, lt_iff]
  rintro ⟨limit, place, hLimit, hPlace, hLess⟩
  have hBound := natAbs_le_of_rank hPlace
  have hLimit : (unitsLimit : Int) = limit := Option.some.inj hLimit
  omega

theorem not_lt_infinite (x : Binary64) : x.lt (infinite true) = false := by
  rw [Bool.eq_false_iff, ne_eq, lt_iff]
  rintro ⟨place, limit, hPlace, hLimit, hLess⟩
  have hBound := natAbs_le_of_rank hPlace
  have hLimit : -(unitsLimit : Int) = limit := Option.some.inj hLimit
  omega

end Binary64

namespace Reduction

/-- The places of the numbers of a list. -/
def places (xs : List Binary64) : Set Int := {place | ∃ x ∈ xs, x.rank = some place}

theorem places_eq (xs : List Binary64) : places xs = {place | place ∈ xs.filterMap rank} := by
  ext place
  exact List.mem_filterMap.symm

theorem filterMap_rank_ne_nil {xs : List Binary64} (hNumbers : ∀ x ∈ xs, x.isNaN = false)
    (hSome : xs ≠ []) : xs.filterMap rank ≠ [] := by
  obtain ⟨x, hx⟩ := List.exists_mem_of_ne_nil xs hSome
  obtain ⟨place, hPlace⟩ := Binary64.exists_rank_of_not_isNaN (hNumbers x hx)
  exact List.ne_nil_of_mem (List.mem_filterMap.2 ⟨x, hx, hPlace⟩)

theorem foldl_merge_rank (choose : Int → Int → Int) (xs : List Binary64) (place : Int) :
    (xs.map rank).foldl (Option.merge choose) (some place) =
      some ((xs.filterMap rank).foldl choose place) := by
  induction xs generalizing place with
  | nil => rfl
  | cons x xs ih =>
      rw [List.map_cons, List.foldl_cons]
      cases hx : x.rank with
      | none =>
          rw [List.filterMap_cons_none hx]
          exact ih place
      | some n =>
          rw [List.filterMap_cons_some hx]
          exact ih (choose place n)

/-- An extreme of numbers is found at the extreme one of their places, if that is what a fold over
places between the infinities gives. -/
theorem bind_rank_extreme?_iff (choose : Int → Int → Int) (IsExtreme : Set Int → Int → Prop)
    {relation : Int → Int → Bool} (hChoose : ∀ m n, choose m n = if relation m n then m else n)
    {bound : Binary64} {start : Int} (hStart : bound.rank = some start)
    (hMem : ∀ S n, IsExtreme S n → n ∈ S) (hUnique : ∀ S m n, IsExtreme S m → IsExtreme S n → m = n)
    (hFold : ∀ ns : List Int, ns ≠ [] → (∀ n ∈ ns, n.natAbs ≤ Binary64.unitsLimit) →
      IsExtreme {n | n ∈ ns} (ns.foldl choose start))
    {xs : List Binary64} (hNumbers : ∀ x ∈ xs, x.isNaN = false) {place : Int} :
    (extreme? bound (Binary64.compareRanks relation) xs).bind rank = some place ↔
      IsExtreme (places xs) place := by
  rw [places_eq]
  cases xs with
  | nil => exact iff_of_false (by simp [extreme?]) fun h => absurd (hMem _ _ h) (by simp)
  | cons x xs =>
      have hFound := hFold _ (filterMap_rank_ne_nil hNumbers (List.cons_ne_nil x xs))
        fun place hPlace => by
          obtain ⟨y, -, hy⟩ := List.mem_filterMap.1 hPlace
          exact Binary64.natAbs_le_of_rank hy
      rw [extreme?, Option.bind_some, rank_extreme hChoose, hStart, foldl_merge_rank,
        Option.some.injEq]
      · exact ⟨fun h => h ▸ hFound, hUnique _ _ _ hFound⟩
      · simp

/-- The least number is at the least place. -/
theorem bind_rank_least?_iff {xs : List Binary64} (hNumbers : ∀ x ∈ xs, x.isNaN = false)
    {place : Int} : (least? xs).bind rank = some place ↔ IsLeast (places xs) place := by
  refine bind_rank_extreme?_iff min IsLeast (fun m n => ?_) rfl (fun _ _ h => h.1)
    (fun _ _ _ => IsLeast.unique) (fun ns hSome hBetween => ?_) hNumbers
  · simp only [decide_eq_true_eq]
    omega
  · refine isLeast_foldl_min hSome fun n hn => ?_
    have hPlace := hBetween n hn
    show n ≤ (Binary64.unitsLimit : Int)
    omega

/-- The greatest number is at the greatest place. -/
theorem bind_rank_greatest?_iff {xs : List Binary64} (hNumbers : ∀ x ∈ xs, x.isNaN = false)
    {place : Int} : (greatest? xs).bind rank = some place ↔ IsGreatest (places xs) place := by
  rw [greatest?_eq]
  refine bind_rank_extreme?_iff max IsGreatest (fun m n => ?_) rfl (fun _ _ h => h.1)
    (fun _ _ _ => IsGreatest.unique) (fun ns hSome hBetween => ?_) hNumbers
  · simp only [decide_eq_true_eq]
    omega
  · refine isGreatest_foldl_max hSome fun n hn => ?_
    have hPlace := hBetween n hn
    show -(Binary64.unitsLimit : Int) ≤ n
    omega

/-- The fold of an extreme gives an element or the number it starts from. -/
theorem mem_cons_foldl_extreme (precedes : Binary64 → Binary64 → Bool) (xs : List Binary64)
    (start : Binary64) :
    xs.foldl (fun best x => if x.isNaN || precedes best x then best else x) start ∈
      start :: xs := by
  induction xs generalizing start with
  | nil => exact List.mem_singleton_self start
  | cons x xs ih =>
      rw [List.foldl_cons]
      split
      · exact List.cons_subset_cons start (List.subset_cons_self x xs) (ih start)
      · exact List.mem_cons_of_mem start (ih x)

section

variable {xs : List Binary64} (hNumbers : ∀ x ∈ xs, x.isNaN = false) (hSome : xs ≠ [])

include hNumbers hSome

/-- An extreme of numbers is one of them: the bound precedes none, so the first number takes its
place. -/
theorem exists_extreme? (bound : Binary64) (precedes : Binary64 → Binary64 → Bool)
    (hBound : ∀ x, precedes bound x = false) : ∃ x ∈ xs, extreme? bound precedes xs = some x := by
  obtain ⟨first, rest, rfl⟩ := List.exists_cons_of_ne_nil hSome
  refine ⟨_, ?_, rfl⟩
  rw [List.foldl_cons, hNumbers first List.mem_cons_self, hBound]
  exact mem_cons_foldl_extreme precedes rest first

theorem exists_least? : ∃ x ∈ xs, least? xs = some x ∧ ∀ y ∈ xs, x.le y := by
  obtain ⟨x, hx, hLeast⟩ := exists_extreme? hNumbers hSome _ _ Binary64.not_infinite_lt
  obtain ⟨place, hPlace⟩ := Binary64.exists_rank_of_not_isNaN (hNumbers x hx)
  refine ⟨x, hx, hLeast, fun y hy => ?_⟩
  obtain ⟨place', hPlace'⟩ := Binary64.exists_rank_of_not_isNaN (hNumbers y hy)
  have hBelow := (bind_rank_least?_iff hNumbers).1
    (Option.bind_eq_some_iff.2 ⟨x, hLeast, hPlace⟩)
  exact Binary64.le_iff.2 ⟨place, place', hPlace, hPlace', hBelow.2 ⟨y, hy, hPlace'⟩⟩

theorem exists_greatest? : ∃ x ∈ xs, greatest? xs = some x ∧ ∀ y ∈ xs, y.le x := by
  obtain ⟨x, hx, hGreatest⟩ := exists_extreme? hNumbers hSome _ (fun x y => y.lt x)
    Binary64.not_lt_infinite
  obtain ⟨place, hPlace⟩ := Binary64.exists_rank_of_not_isNaN (hNumbers x hx)
  refine ⟨x, hx, hGreatest, fun y hy => ?_⟩
  obtain ⟨place', hPlace'⟩ := Binary64.exists_rank_of_not_isNaN (hNumbers y hy)
  have hAbove := (bind_rank_greatest?_iff hNumbers).1
    (Option.bind_eq_some_iff.2 ⟨x, hGreatest, hPlace⟩)
  exact Binary64.le_iff.2 ⟨place', place, hPlace', hPlace, hAbove.2 ⟨y, hy, hPlace'⟩⟩

end

theorem rank_cellOfNumber? (x? : Option Binary64) :
    (cellOfNumber? x?).toNumber.map rank = .ok (x?.bind rank) := by
  cases x? with
  | none => rfl
  | some x => rfl

theorem rank_reduce_least_iff {xs : List Binary64} (hNumbers : ∀ x ∈ xs, x.isNaN = false)
    {place : Int} : (Reduction.least.reduce xs).toNumber.map rank = .ok (some place) ↔
      IsLeast (places xs) place := by
  rw [reduce, rank_cellOfNumber?, Except.ok.injEq]
  exact bind_rank_least?_iff hNumbers

theorem rank_reduce_greatest_iff {xs : List Binary64} (hNumbers : ∀ x ∈ xs, x.isNaN = false)
    {place : Int} : (Reduction.greatest.reduce xs).toNumber.map rank = .ok (some place) ↔
      IsGreatest (places xs) place := by
  rw [reduce, rank_cellOfNumber?, Except.ok.injEq]
  exact bind_rank_greatest?_iff hNumbers

end Reduction

/-! ## The numbers of a column -/

/-- Tells if a cell gives a number. -/
def Cell.isNumeric (cell : Cell) : Bool :=
  match cell.toNumber with
  | .ok x => !x.isNaN
  | .error _ => false

/-- The number of a cell; NaN also for a whole number that has none. -/
def Cell.number (cell : Cell) : Binary64 := cell.toNumber.toOption.getD .nan

theorem Cell.toNumber_eq_number {cell : Cell} (h : HasValue cell.toNumber) :
    cell.toNumber = .ok cell.number := by
  obtain ⟨x, hx, -⟩ := h
  rw [number, hx]
  rfl

theorem Cell.isNumeric_eq (cell : Cell) : cell.isNumeric = !cell.number.isNaN := by
  unfold isNumeric number
  cases cell.toNumber <;> rfl

/-- The places of the numbers in a column. -/
def columnPlaces (rows : List Row) (column : String) : Set Int :=
  {place | ∃ row ∈ rows, (row.get column).toNumber.map rank = .ok (some place)}

variable {rows : List Row} {column : String} {xs : List Binary64}

theorem isNaN_of_columnNumbers (h : columnNumbers rows column = .ok xs) :
    ∀ x ∈ xs, x.isNaN = false := by
  obtain ⟨all, -, h⟩ := bind_eq_ok_iff.1 h
  cases h
  intro x hx
  simpa using (List.mem_filter.1 hx).2

theorem length_of_columnNumbers (h : columnNumbers rows column = .ok xs) :
    xs.length = rows.countP fun row => (row.get column).isNumeric := by
  obtain ⟨all, hAll, h⟩ := bind_eq_ok_iff.1 h
  cases h
  have hNumeric : all.map (!·.isNaN) = rows.map fun row => (row.get column).isNumeric :=
    map_of_mapM (fun row x hx => by rw [Cell.isNumeric, hx]) hAll
  have hCounts := congrArg (List.countP id) hNumeric
  rwa [List.countP_map, List.countP_map, Function.id_comp, Function.id_comp,
    List.countP_eq_length_filter] at hCounts

theorem columnPlaces_eq (h : columnNumbers rows column = .ok xs) :
    columnPlaces rows column = Reduction.places xs := by
  obtain ⟨all, hAll, h⟩ := bind_eq_ok_iff.1 h
  cases h
  ext place
  constructor
  · rintro ⟨row, hRow, hPlace⟩
    obtain ⟨x, hx, hNumber⟩ := exists_value_of_mapM hAll row hRow
    rw [hNumber] at hPlace
    have hRank : x.rank = some place := Except.ok.inj hPlace
    refine ⟨x, List.mem_filter.2 ⟨hx, ?_⟩, hRank⟩
    rw [← rank_isSome, hRank]
    rfl
  · rintro ⟨x, hx, hPlace⟩
    obtain ⟨row, hRow, hNumber⟩ := exists_of_mem_mapM hAll x (List.mem_of_mem_filter hx)
    refine ⟨row, hRow, ?_⟩
    rw [hNumber, ← hPlace]
    rfl

theorem exists_isLeast_columnPlaces (h : columnNumbers rows column = .ok xs)
    (hSome : (columnPlaces rows column).Nonempty) :
    ∃ place, IsLeast (columnPlaces rows column) place := by
  obtain ⟨place, hPlace⟩ := hSome
  rw [columnPlaces_eq h, Reduction.places_eq] at hPlace ⊢
  exact exists_isLeast_of_mem hPlace

theorem exists_isGreatest_columnPlaces (h : columnNumbers rows column = .ok xs)
    (hSome : (columnPlaces rows column).Nonempty) :
    ∃ place, IsGreatest (columnPlaces rows column) place := by
  obtain ⟨place, hPlace⟩ := hSome
  rw [columnPlaces_eq h, Reduction.places_eq] at hPlace ⊢
  exact exists_isGreatest_of_mem hPlace

end TableFlow
