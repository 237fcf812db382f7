import TableFlow.Proofs.Sort.Stable
import TableFlow.Stage

/-!
# Sorting by one key at a time

Rows can be sorted by several keys at once, or by one key after the other. The last key is then the
first to be sorted by, and each sort keeps the order of the later keys among the rows that it finds
equal: a stable sort on top of a stable sort is a stable sort by the two orders together, the upper
one first. Since there is one stable sort of a list, both ways give the same rows in the same order.

A descending key turns the order round and leaves ties as they are, so it makes no difference here.

## Main results

* `IsStableSort.lexicographic`: a stable sort on top of a stable sort.
* `SortKey.compareRows_append_cons`: a key on a column that an earlier key has decides nothing.
* `SortKey.sort_key_by_key`: sorting by several keys is sorting by one key at a time.
-/

namespace TableFlow

/-! ## One order after the other -/

/-- The first order, and the second one among elements that are tied in the first. -/
def lexicographic {α : Type} (before before' : α → α → Bool) (x y : α) : Bool :=
  before x y && (!before y x || before' x y)

section

variable {α : Type} {before before' : α → α → Bool} {xs ys zs : List α}

theorem areTied_lexicographic (x y : α) :
    areTied (lexicographic before before') x y = (areTied before' x y && areTied before x y) := by
  simp only [areTied, lexicographic]
  cases before x y <;> cases before y x <;> simp

/-- A stable sort on top of a stable sort is a stable sort by the two orders together. -/
theorem IsStableSort.lexicographic (hRefl : ∀ x ∈ xs, before x x)
    (hInner : IsStableSort before' xs ys) (hOuter : IsStableSort before ys zs) :
    IsStableSort (lexicographic before before') xs zs where
  perm := hOuter.perm.trans hInner.perm
  ordered := by
    refine List.pairwise_iff_forall_sublist.2 fun {x y} hPair => ?_
    have hBefore : before x y := List.pairwise_iff_forall_sublist.1 hOuter.ordered hPair
    have hx : x ∈ ys := hOuter.perm.mem_iff.1 (hPair.subset List.mem_cons_self)
    have hSelf : areTied before x x = true := by
      simp only [areTied, hRefl x (hInner.perm.mem_iff.1 hx), Bool.and_self]
    cases hTied : before y x with
    | false => simp only [TableFlow.lexicographic, hBefore, hTied, Bool.not_false, Bool.true_or,
        Bool.and_self]
    | true =>
        have hTies : areTied before x y = true := Bool.and_eq_true_iff.2 ⟨hBefore, hTied⟩
        have hBoth := hPair.filter (areTied before x)
        rw [hOuter.stable x hx, List.filter_cons_of_pos hSelf, List.filter_cons_of_pos hTies,
          List.filter_nil] at hBoth
        have hLower : before' x y := List.pairwise_iff_forall_sublist.1 hInner.ordered
          (hBoth.trans List.filter_sublist)
        simp only [TableFlow.lexicographic, hBefore, hLower, Bool.or_true, Bool.and_self]
  stable x hx := by
    have hy : x ∈ ys := hInner.perm.mem_iff.2 hx
    have hTied : areTied (TableFlow.lexicographic before before') x =
        fun y => areTied before' x y && areTied before x y :=
      funext fun y => areTied_lexicographic x y
    calc zs.filter (areTied (TableFlow.lexicographic before before') x)
        = (zs.filter (areTied before x)).filter (areTied before' x) := by
          rw [hTied, List.filter_filter]
      _ = (ys.filter (areTied before' x)).filter (areTied before x) := by
          rw [hOuter.stable x hy, List.filter_comm]
      _ = xs.filter (areTied (TableFlow.lexicographic before before') x) := by
          rw [hInner.stable x hx, List.filter_comm, hTied, List.filter_filter]

/-- A stable sort is one by every order that agrees with the given one on the elements. -/
theorem IsStableSort.congr (h : IsStableSort before xs ys)
    (hAgree : ∀ x ∈ xs, ∀ y ∈ xs, before x y = before' x y) : IsStableSort before' xs ys where
  perm := h.perm
  ordered := h.ordered.imp_of_mem fun {x y} hx hy hBefore =>
    hAgree x (h.perm.mem_iff.1 hx) y (h.perm.mem_iff.1 hy) ▸ hBefore
  stable x hx := by
    have hFilter : ∀ part : List α, part ⊆ xs →
        part.filter (areTied before' x) = part.filter (areTied before x) := by
      intro part hPart
      refine List.filter_congr fun y hy => ?_
      simp only [areTied, hAgree x hx y (hPart hy), hAgree y (hPart hy) x hx]
    rw [hFilter ys h.perm.subset, hFilter xs (List.Subset.refl xs), h.stable x hx]

end

theorem IsComparable.perm {rows rows' : List Row} {column : String} (h : IsComparable rows column)
    (hPerm : rows'.Perm rows) : IsComparable rows' column :=
  h.imp (fun hWhole row hRow => hWhole row (hPerm.mem_iff.1 hRow))
    fun hTexts row hRow => hTexts row (hPerm.mem_iff.1 hRow)

namespace SortKey

variable {key : SortKey} {keys front back : List SortKey} {rows : List Row}

/-! ## Keys on one column -/

/-- A key that ties two rows leaves the verdict on them to the other keys. -/
theorem compareRows_append_of_ties {a b : Row} (h : key.Ties a b) :
    compareRows (front ++ key :: back) a b = compareRows (front ++ back) a b := by
  induction front with
  | nil =>
      show (key.compare a b >>= fun v => if v = .equal then compareRows back a b else .ok v) = _
      rw [compare_eq_equal_iff.2 h]
      rfl
  | cons earlier front ih => simp only [List.cons_append, compareRows, ih]

/-- A key on a column that an earlier key has decides nothing. -/
theorem compareRows_append_cons (h : key.column ∈ front.map SortKey.column) :
    compareRows (front ++ key :: back) = compareRows (front ++ back) := by
  funext a b
  induction front with
  | nil => cases h
  | cons earlier front ih =>
      by_cases hLater : key.column ∈ front.map SortKey.column
      · simp only [List.cons_append, compareRows, ih hLater]
      · have hSame : key.column = earlier.column := by
          rcases List.mem_cons.1 h with hSame | hLater'
          · exact hSame
          · exact absurd hLater' hLater
        simp only [List.cons_append, compareRows]
        cases hFirst : earlier.compare a b with
        | error cause => rfl
        | ok v =>
            by_cases hEqual : v = .equal
            · subst hEqual
              have hTies : key.Ties a b := by
                unfold Ties
                rw [hSame]
                exact compare_eq_equal_iff.1 hFirst
              exact compareRows_append_of_ties hTies
            · exact (if_neg hEqual).trans (if_neg hEqual).symm

theorem sort_append_cons (h : key.column ∈ front.map SortKey.column) :
    sort (front ++ key :: back) rows = sort (front ++ back) rows := by
  have hInOrder : inOrder (front ++ key :: back) = inOrder (front ++ back) := by
    funext a b
    simp only [inOrder, compareRows_append_cons h]
  cases front with
  | nil => cases h
  | cons first front => exact congrArg (mergeSortM · rows) hInOrder

/-! ## One key after the other -/

theorem sort_eq_mergeSort (h : ∀ key ∈ keys, IsComparable rows key.column) :
    sort keys rows = .ok (rows.mergeSort (isAtMost keys)) := by
  unfold sort
  split
  · next hEmpty =>
    rw [List.isEmpty_iff.1 hEmpty, List.mergeSort_of_pairwise]
    exact List.pairwise_of_forall fun a b => rfl
  · exact mergeSortM_eq_mergeSort fun a ha b hb => inOrder_eq h ha hb

theorem compareRows_singleton (a b : Row) : compareRows [key] a b = key.compare a b := by
  simp only [compareRows]
  cases key.compare a b with
  | error cause => rfl
  | ok v => cases v <;> rfl

/-- The first key decides, and the others among rows that it finds equal. -/
theorem isAtMost_cons (h : ∀ k ∈ key :: keys, IsComparable rows k.column) {a b : Row}
    (ha : a ∈ rows) (hb : b ∈ rows) :
    isAtMost (key :: keys) a b = lexicographic (isAtMost [key]) (isAtMost keys) a b := by
  obtain ⟨hFirst, hRest⟩ := List.forall_mem_cons.1 h
  obtain ⟨o, hKey, hSwapped⟩ :=
    exists_compareRows_both (List.forall_mem_singleton.2 hFirst) ha hb
  obtain ⟨o', hOthers⟩ := exists_compareRows hRest ha hb
  have hBoth : compareRows (key :: keys) a b = .ok (.ofOrdering (o.then o')) := by
    rw [compareRows_singleton] at hKey
    refine compareRows_cons_eq_ok_iff.2 ⟨_, hKey, ?_⟩
    cases o with
    | lt => rfl
    | eq => exact hOthers
    | gt => rfl
  simp only [lexicographic, isAtMost, hBoth, hKey, hSwapped, hOthers]
  cases o <;> cases o' <;> rfl

/-- Sorting by one key after the other, the last one first, is a stable sort by all keys. -/
theorem exists_runAll_eq (h : ∀ key ∈ keys, IsComparable rows key.column) :
    ∃ sorted, Stage.runAll (keys.map fun key => .sort [.ofKey key]).reverse rows = .ok sorted ∧
      IsStableSort (isAtMost keys) rows sorted := by
  induction keys with
  | nil => exact ⟨rows, rfl, .refl rows, List.pairwise_of_forall fun a b => rfl, fun _ _ => rfl⟩
  | cons key keys ih =>
      obtain ⟨hFirst, hRest⟩ := List.forall_mem_cons.1 h
      obtain ⟨sorted, hRun, hSorted⟩ := ih hRest
      have hKey : ∀ k ∈ [key], IsComparable sorted k.column :=
        List.forall_mem_singleton.2 (hFirst.perm hSorted.perm)
      have hOuter := (ordersElements_isAtMost hKey).isStableSort_mergeSort
      refine ⟨sorted.mergeSort (isAtMost [key]), ?_, ?_⟩
      · rw [List.map_cons, List.reverse_cons, Stage.runAll_append, hRun]
        show (SortConfig.sort ([key].map .ofKey) sorted >>= fun rows => .ok rows) = _
        rw [SortConfig.sort_ofKeys, sort_eq_mergeSort hKey]
        rfl
      · have hRefl : ∀ row ∈ rows, isAtMost [key] row row := fun row hRow =>
          (ordersElements_isAtMost (List.forall_mem_singleton.2 hFirst)).refl hRow
        exact (hSorted.lexicographic hRefl hOuter).congr fun a ha b hb =>
          (isAtMost_cons h ha hb).symm

/-- **Sorting by several keys is sorting by one key at a time.** If each key column holds whole
numbers only, or no numbers and no texts with the NUL character, the rows sorted by all keys at once
are the rows sorted by one key after the other, the last key first. Sorting them again by the same
keys changes nothing, and neither does one more key on a column that an earlier key has. -/
theorem sort_key_by_key (h : ∀ key ∈ keys, IsComparable rows key.column) :
    ∃ sorted, sort keys rows = .ok sorted ∧
      Stage.runAll (keys.map fun key => .sort [.ofKey key]).reverse rows = .ok sorted ∧
      sort keys sorted = .ok sorted ∧
      ∀ front key back, keys = front ++ back → key.column ∈ front.map SortKey.column →
        sort (front ++ key :: back) rows = .ok sorted := by
  obtain ⟨sorted, hRun, hSorted⟩ := exists_runAll_eq h
  have hOrder := ordersElements_isAtMost h
  have hSort : sort keys rows = .ok sorted := by
    rw [sort_eq_mergeSort h, hOrder.isStableSort_mergeSort.unique hOrder hSorted]
  refine ⟨sorted, hSort, hRun, ?_, ?_⟩
  · rw [sort_eq_mergeSort fun key hKey => (h key hKey).perm hSorted.perm,
      List.mergeSort_of_pairwise hSorted.ordered]
  · rintro front key back rfl hListed
    rw [sort_append_cons hListed, hSort]

/-- Rows with a number beyond the binary64 numbers, a list among texts, and texts that differ only
in case. -/
def listedRows : List Row := [
  twoCells (.int 2) (.text "b"), twoCells (.int (10 ^ 400)) .missing,
  twoCells (.int 2) (.list [.int 1, .text "\x00"]), twoCells (.int 2) (.text "B"),
  twoCells (.int (-3)) (.bool true)]

theorem sort_key_by_key_listedRows :
    IsComparable listedRows "v" ∧ IsComparable listedRows "k" ∧
      ∃ sorted, sort mixedKeys listedRows = .ok sorted ∧
        Stage.runAll [.sort [⟨.text "k", .ascending⟩], .sort [⟨.text "v", .descending⟩]]
          listedRows = .ok sorted ∧
        sort mixedKeys sorted = .ok sorted ∧
        sort [⟨"v", .descending⟩, ⟨"v", .ascending⟩, ⟨"k", .ascending⟩] listedRows =
          .ok sorted := by
  have hWhole : IsComparable listedRows "v" := by
    refine .inl ?_
    simp only [listedRows, List.forall_mem_cons]
    exact ⟨⟨2, rfl⟩, ⟨10 ^ 400, rfl⟩, ⟨2, rfl⟩, ⟨2, rfl⟩, ⟨-3, rfl⟩, List.forall_mem_nil _⟩
  have hTexts : IsComparable listedRows "k" := .inr (by decide +kernel)
  obtain ⟨sorted, hSort, hRun, hAgain, hListed⟩ :=
    @sort_key_by_key mixedKeys listedRows
      (List.forall_mem_cons.2 ⟨hWhole, List.forall_mem_singleton.2 hTexts⟩)
  exact ⟨hWhole, hTexts, sorted, hSort, hRun, hAgain,
    hListed [⟨"v", .descending⟩] ⟨"v", .ascending⟩ [⟨"k", .ascending⟩] rfl (by decide)⟩

end SortKey

end TableFlow
