import TableFlow.Proofs.Sort.Comparison

/-!
# Sorting is stable

The rows of a table are sorted by merging, and a comparison that fails stops the sort. In columns
of whole numbers only, and in columns of cells with texts but without numbers, no comparison fails,
and the comparison of rows is an order. The sort is then the merge sort of the library, whose laws
carry over: it loses no rows and adds none, puts every row in order with all rows behind it, and
leaves rows that compare as equal as they were.

These three properties leave no choice. The row at the front is tied with the front of any other
list that has them, and of the rows tied with it the first one is known, so there is one such list.

## Main results

* `mergeSortM_eq_mergeSort`: without failures, sorting is the merge sort of the library.
* `IsStableSort.unique`: a list is sorted in one way that keeps the order of ties.
* `SortKey.sort_stable`: sorting by keys is correct and stable.
-/

namespace TableFlow

variable {α ε : Type}

/-! ## Sorting without failures -/

section

variable {le : α → α → Except ε Bool} {before : α → α → Bool}

theorem mergeM_eq_merge {xs ys : List α} (h : ∀ x ∈ xs, ∀ y ∈ ys, le x y = .ok (before x y)) :
    mergeM le xs ys = .ok (xs.merge ys before) := by
  fun_induction mergeM le xs ys with
  | case1 ys => rw [List.nil_merge]
  | case2 xs => rw [List.merge_right]
  | case3 x xs y ys ihLeft ihRight =>
      obtain ⟨hFirst, hLeft⟩ := List.forall_mem_cons.1 h
      have hRight : ∀ z ∈ x :: xs, ∀ w ∈ ys, le z w = .ok (before z w) :=
        fun z hz w hw => h z hz w (List.mem_cons_of_mem y hw)
      rw [List.cons_merge_cons, hFirst y List.mem_cons_self]
      cases before x y with
      | true =>
          show (mergeM le xs (y :: ys) >>= fun rest => .ok (x :: rest)) = _
          rw [ihLeft hLeft]
          rfl
      | false =>
          show (mergeM le (x :: xs) ys >>= fun rest => .ok (y :: rest)) = _
          rw [ihRight hRight]
          rfl

/-- Without failures, sorting is the merge sort of the library. -/
theorem mergeSortM_eq_mergeSort {xs : List α}
    (h : ∀ x ∈ xs, ∀ y ∈ xs, le x y = .ok (before x y)) :
    mergeSortM le xs = .ok (xs.mergeSort before) := by
  fun_induction mergeSortM le xs with
  | case1 => rw [List.mergeSort_nil]
  | case2 x => rw [List.mergeSort_singleton]
  | case3 x y rest whole middle ihFront ihBack =>
      have hFront : whole.take middle ⊆ whole := (List.take_sublist middle whole).subset
      have hBack : whole.drop middle ⊆ whole := (List.drop_sublist middle whole).subset
      rw [ihFront fun a ha b hb => h a (hFront ha) b (hFront hb),
        ihBack fun a ha b hb => h a (hBack ha) b (hBack hb)]
      show mergeM le _ _ = _
      rw [mergeM_eq_merge fun a ha b hb =>
        h a (hFront (List.mem_mergeSort.1 ha)) b (hBack (List.mem_mergeSort.1 hb)),
        List.mergeSort]
      simp only [List.MergeSort.Internal.splitInTwo_fst, List.MergeSort.Internal.splitInTwo_snd]
      rfl

end

/-! ## Stable sorts -/

variable {before : α → α → Bool}

/-- Each of two elements may stand in front of the other one. -/
def areTied (before : α → α → Bool) (x y : α) : Bool := before x y && before y x

/-- The elements of a list are ordered. -/
structure OrdersElements (before : α → α → Bool) (xs : List α) : Prop where
  total : ∀ x ∈ xs, ∀ y ∈ xs, before x y || before y x
  trans : ∀ x ∈ xs, ∀ y ∈ xs, ∀ z ∈ xs, before x y → before y z → before x z

/-- The elements of a list in order, those that are tied as they stand in the list. -/
structure IsStableSort (before : α → α → Bool) (xs ys : List α) : Prop where
  perm : ys.Perm xs
  ordered : ys.Pairwise fun x y => before x y
  stable : ∀ x ∈ xs, ys.filter (areTied before x) = xs.filter (areTied before x)

theorem OrdersElements.refl {xs : List α} (h : OrdersElements before xs) {x : α} (hx : x ∈ xs) :
    before x x := by
  simpa only [Bool.or_self] using h.total x hx x hx

theorem OrdersElements.perm {xs ys : List α} (h : OrdersElements before xs) (hPerm : ys.Perm xs) :
    OrdersElements before ys where
  total x hx y hy := h.total x (hPerm.mem_iff.1 hx) y (hPerm.mem_iff.1 hy)
  trans x hx y hy z hz :=
    h.trans x (hPerm.mem_iff.1 hx) y (hPerm.mem_iff.1 hy) z (hPerm.mem_iff.1 hz)

/-- Elements that are tied with one element are tied with each other. -/
theorem OrdersElements.pairwise_filter {xs : List α} (h : OrdersElements before xs) {x : α}
    (hx : x ∈ xs) : (xs.filter (areTied before x)).Pairwise fun y z => before y z := by
  refine List.pairwise_of_forall_mem_list fun y hy z hz => ?_
  obtain ⟨hy, hTied⟩ := List.mem_filter.1 hy
  obtain ⟨hz, hTied'⟩ := List.mem_filter.1 hz
  exact h.trans y hy x hx z hz (Bool.and_eq_true_iff.1 hTied).2 (Bool.and_eq_true_iff.1 hTied').1

section

variable {xs : List α} (h : OrdersElements before xs)

include h

/-- The laws of the library are about orders of a whole type: here, of the elements of the list. -/
private theorem OrdersElements.exists_attached :
    ∃ inside : {x // x ∈ xs} → {x // x ∈ xs} → Bool,
      (∀ x y, inside x y = before x.1 y.1) ∧ (∀ x y, inside x y || inside y x) ∧
        (∀ x y z, inside x y → inside y z → inside x z) ∧
        (xs.attach.mergeSort inside).map Subtype.val = xs.mergeSort before := by
  refine ⟨fun x y => before x.1 y.1, fun _ _ => rfl, fun x y => h.total x.1 x.2 y.1 y.2,
    fun x y z => h.trans x.1 x.2 y.1 y.2 z.1 z.2, ?_⟩
  have hMap := @List.map_mergeSort _ _ (fun x y => before x.1 y.1) before Subtype.val xs.attach
    fun _ _ _ _ => rfl
  rwa [List.attach_map_subtype_val] at hMap

theorem OrdersElements.pairwise_mergeSort :
    (xs.mergeSort before).Pairwise fun x y => before x y := by
  obtain ⟨inside, hInside, hTotal, hTrans, hMap⟩ := h.exists_attached
  rw [← hMap, List.pairwise_map]
  refine (List.pairwise_mergeSort hTrans hTotal xs.attach).imp fun {x y} hBefore => ?_
  rwa [← hInside]

/-- What is in order already stays as it is. -/
theorem OrdersElements.sublist_mergeSort {ys : List α} (hSublist : ys.Sublist xs)
    (hOrdered : ys.Pairwise fun x y => before x y) : ys.Sublist (xs.mergeSort before) := by
  obtain ⟨inside, hInside, hTotal, hTrans, hMap⟩ := h.exists_attached
  rw [← List.attach_map_subtype_val xs, List.sublist_map_iff] at hSublist
  obtain ⟨attached, hAttached, rfl⟩ := hSublist
  rw [List.pairwise_map] at hOrdered
  have hOrdered : attached.Pairwise fun x y => inside x y :=
    hOrdered.imp fun {x y} hBefore => by rwa [hInside]
  rw [← hMap]
  exact (List.sublist_mergeSort hTrans hTotal hOrdered hAttached).map Subtype.val

/-- The merge sort is a stable sort of elements that are ordered. -/
theorem OrdersElements.isStableSort_mergeSort : IsStableSort before xs (xs.mergeSort before) := by
  have hPerm := List.mergeSort_perm xs before
  refine ⟨hPerm, h.pairwise_mergeSort, fun x hx => ?_⟩
  have hTied := h.sublist_mergeSort List.filter_sublist (h.pairwise_filter hx)
  have hBoth := hTied.filter (areTied before x)
  rw [List.filter_filter] at hBoth
  simp only [Bool.and_self] at hBoth
  exact (hBoth.eq_of_length (hPerm.filter _).length_eq.symm).symm

end

theorem OrdersElements.of_cons {x : α} {xs : List α} (h : OrdersElements before (x :: xs)) :
    OrdersElements before xs where
  total y hy z hz := h.total y (.tail x hy) z (.tail x hz)
  trans y hy z hz w hw := h.trans y (.tail x hy) z (.tail x hz) w (.tail x hw)

/-- The element at the front of a list in order may stand in front of every element. -/
theorem before_of_mem_sorted {x y : α} {xs : List α} (hRefl : before x x)
    (hSorted : (x :: xs).Pairwise fun x y => before x y) (hy : y ∈ x :: xs) : before x y := by
  rcases List.mem_cons.1 hy with rfl | hy
  · exact hRefl
  · exact List.rel_of_pairwise_cons hSorted hy

/-- Two lists of the same elements are equal if both are in order and each element is tied with the
same elements, in the same order, in both. -/
theorem OrdersElements.eq_of_sorted {xs ys : List α} (h : OrdersElements before xs)
    (hPerm : ys.Perm xs) (hxs : xs.Pairwise fun x y => before x y)
    (hys : ys.Pairwise fun x y => before x y)
    (hTied : ∀ x ∈ xs, xs.filter (areTied before x) = ys.filter (areTied before x)) : xs = ys := by
  induction xs generalizing ys with
  | nil => exact hPerm.symm.nil_eq
  | cons x xs ih =>
      cases ys with
      | nil => exact absurd hPerm.symm List.not_perm_cons_nil
      | cons y ys =>
          have hyMem : y ∈ x :: xs := hPerm.mem_iff.1 List.mem_cons_self
          have hxMem : x ∈ y :: ys := hPerm.mem_iff.2 List.mem_cons_self
          have hx : before x x := h.refl List.mem_cons_self
          have hy : before y y := h.refl hyMem
          have hFronts : areTied before x y = true := Bool.and_eq_true_iff.2
            ⟨before_of_mem_sorted hx hxs hyMem, before_of_mem_sorted hy hys hxMem⟩
          have hSelf : areTied before x x = true := Bool.and_eq_true_iff.2 ⟨hx, hx⟩
          have hFirst := hTied x List.mem_cons_self
          rw [List.filter_cons_of_pos hSelf, List.filter_cons_of_pos hFronts,
            List.cons.injEq] at hFirst
          obtain ⟨rfl, -⟩ := hFirst
          refine congrArg (x :: ·) (ih h.of_cons hPerm.cons_inv hxs.of_cons hys.of_cons ?_)
          intro z hz
          have hRest := hTied z (.tail x hz)
          rw [List.filter_cons, List.filter_cons] at hRest
          split at hRest
          · exact (List.cons.inj hRest).2
          · exact hRest

/-- A list is sorted in one way that keeps the order of ties. -/
theorem IsStableSort.unique {xs ys zs : List α} (h : OrdersElements before xs)
    (hy : IsStableSort before xs ys) (hz : IsStableSort before xs zs) : ys = zs := by
  refine (h.perm hy.perm).eq_of_sorted (hz.perm.trans hy.perm.symm) hy.ordered hz.ordered ?_
  intro x hx
  have hx : x ∈ xs := hy.perm.mem_iff.1 hx
  rw [hy.stable x hx, hz.stable x hx]

/-! ## Columns that can be sorted by -/

/-- All cells of a column are whole numbers, or all are plain and none is a number. -/
def IsSortable (rows : List Row) (column : String) : Prop :=
  (∀ row ∈ rows, ∃ n, row.get column = .int n) ∨
    ∀ row ∈ rows, (row.get column).isNumber = false ∧ (row.get column).IsPlain

/-- All cells of a column are whole numbers, or none is a number and all have texts without the NUL
character. Lists and records may be among them. -/
def IsComparable (rows : List Row) (column : String) : Prop :=
  (∀ row ∈ rows, ∃ n, row.get column = .int n) ∨
    ∀ row ∈ rows, (row.get column).isNumber = false ∧
      Succeeds (row.get column).toText fun text => NulFree text.toList

/-- Columns of a kind can be sorted by: each two cells are in an order, and each three are compared
in one way. -/
class OrdersColumns (kind : List Row → String → Prop) : Prop where
  exists_compare {rows : List Row} {column : String} (h : kind rows column) {a b : Row}
    (ha : a ∈ rows) (hb : b ∈ rows) :
    ∃ o, (a.get column).compare (b.get column) = .ok (.ofOrdering o)
  alike {rows : List Row} {column : String} (h : kind rows column) {a b c : Row} (ha : a ∈ rows)
    (hb : b ∈ rows) (hc : c ∈ rows) : Cell.Alike (a.get column) (b.get column) (c.get column)

/-- Cells with texts are compared by these if they are not both numbers. -/
theorem Cell.exists_compare_of_texts {a b : Cell} (h : a.isNumber = false)
    (ha : Succeeds a.toText fun text => NulFree text.toList)
    (hb : Succeeds b.toText fun text => NulFree text.toList) :
    ∃ o, a.compare b = .ok (.ofOrdering o) := by
  obtain ⟨s, hs, hsNul⟩ := ha
  obtain ⟨t, ht, htNul⟩ := hb
  refine ⟨textOrder s t, compare_eq_ok_iff.2 (.texts ?_ hs ht hsNul htNul)⟩
  rintro ⟨hNumber, -⟩
  rw [h] at hNumber
  cases hNumber

instance ordersColumns_isComparable : OrdersColumns IsComparable where
  exists_compare := by
    rintro rows column (hWhole | hTexts) a b ha hb
    · obtain ⟨m, hm⟩ := hWhole a ha
      obtain ⟨n, hn⟩ := hWhole b hb
      exact ⟨compare m n, by rw [hm, hn, Cell.compare_int]⟩
    · obtain ⟨haNumber, haText⟩ := hTexts a ha
      exact Cell.exists_compare_of_texts haNumber haText (hTexts b hb).2
  alike := by
    rintro rows column (hWhole | hTexts) a b c ha hb hc
    · obtain ⟨l, hl⟩ := hWhole a ha
      obtain ⟨m, hm⟩ := hWhole b hb
      obtain ⟨n, hn⟩ := hWhole c hc
      exact .whole hl hm hn
    · have hNone : ∀ row ∈ rows, ¬ (row.get column).isNumber :=
        fun row hRow => Bool.not_eq_true _ ▸ (hTexts row hRow).1
      exact .texts (fun hBoth => hNone a ha hBoth.1) (fun hBoth => hNone c hc hBoth.2)
        fun hBoth => hNone a ha hBoth.1

theorem IsSortable.isComparable {rows : List Row} {column : String} (h : IsSortable rows column) :
    IsComparable rows column :=
  h.imp_right fun hTexts row hRow => ⟨(hTexts row hRow).1, (hTexts row hRow).2.succeeds_toText⟩

instance ordersColumns_isSortable : OrdersColumns IsSortable where
  exists_compare h := OrdersColumns.exists_compare h.isComparable
  alike h := OrdersColumns.alike h.isComparable

namespace SortKey

/-! ## Rows in the order of keys -/

/-- The rows of a table in the order of the keys, rows that compare as equal as they stand in the
table. -/
structure Sorts (keys : List SortKey) (rows sorted : List Row) : Prop where
  perm : sorted.Perm rows
  /-- Each row is in order with all rows behind it. -/
  ordered : sorted.Pairwise fun a b => Succeeds (compareRows keys a b) Verdict.IsAtMost
  stable : ∀ row ∈ rows,
    (sorted.filter fun other => compareRows keys row other = .ok .equal) =
      rows.filter fun other => compareRows keys row other = .ok .equal

/-- Tells if a row is less than another one, or compares as equal. -/
def isAtMost (keys : List SortKey) (a b : Row) : Bool :=
  decide (Succeeds (compareRows keys a b) Verdict.IsAtMost)

section

variable {kind : List Row → String → Prop} [OrdersColumns kind] {keys : List SortKey}
  {rows : List Row} (h : ∀ key ∈ keys, kind rows key.column)

include h

/-- Each two rows are in an order. -/
theorem exists_compareRows {a b : Row} (ha : a ∈ rows) (hb : b ∈ rows) :
    ∃ o, compareRows keys a b = .ok (.ofOrdering o) := by
  induction keys with
  | nil => exact ⟨.eq, rfl⟩
  | cons key keys ih =>
      obtain ⟨hFirst, hRest⟩ := List.forall_mem_cons.1 h
      obtain ⟨o, hCells⟩ := OrdersColumns.exists_compare hFirst ha hb
      obtain ⟨o', hKey⟩ : ∃ o', key.compare a b = .ok (.ofOrdering o') := by
        cases hDirection : key.direction with
        | ascending => exact ⟨o, by rw [compare_eq, hCells, hDirection]; rfl⟩
        | descending =>
            refine ⟨o.swap, ?_⟩
            rw [compare_eq, hCells, hDirection, Verdict.ofOrdering_swap]
            rfl
      by_cases hEqual : Verdict.ofOrdering o' = .equal
      · obtain ⟨o'', hOthers⟩ := ih hRest
        refine ⟨o'', compareRows_cons_eq_ok_iff.2 ⟨_, hKey, ?_⟩⟩
        rwa [if_pos hEqual]
      · refine ⟨o', compareRows_cons_eq_ok_iff.2 ⟨_, hKey, ?_⟩⟩
        rw [if_neg hEqual]

/-- Exchanging the rows turns the order round. -/
theorem exists_compareRows_both {a b : Row} (ha : a ∈ rows) (hb : b ∈ rows) :
    ∃ o : Ordering, compareRows keys a b = .ok (.ofOrdering o) ∧
      compareRows keys b a = .ok (.ofOrdering o.swap) := by
  obtain ⟨o, hRows⟩ := exists_compareRows h ha hb
  refine ⟨o, hRows, ?_⟩
  rw [Verdict.ofOrdering_swap]
  exact compareRows_symm hRows

/-- The sort asks whether a row may stay in front of another one: it is at most the other one. -/
theorem inOrder_eq {a b : Row} (ha : a ∈ rows) (hb : b ∈ rows) :
    inOrder keys a b = .ok (isAtMost keys a b) := by
  obtain ⟨o, hRows, hSwapped⟩ := exists_compareRows_both h ha hb
  simp only [inOrder, isAtMost, hRows, hSwapped]
  cases o <;> rfl

/-- Rows are tied if they compare as equal. -/
theorem areTied_isAtMost {a b : Row} (ha : a ∈ rows) (hb : b ∈ rows) :
    areTied (isAtMost keys) a b = decide (compareRows keys a b = .ok .equal) := by
  obtain ⟨o, hRows, hSwapped⟩ := exists_compareRows_both h ha hb
  simp only [areTied, isAtMost, hRows, hSwapped]
  cases o <;> rfl

theorem ordersElements_isAtMost : OrdersElements (isAtMost keys) rows where
  total a ha b hb := by
    obtain ⟨o, hRows, hSwapped⟩ := exists_compareRows_both h ha hb
    simp only [isAtMost, hRows, hSwapped]
    cases o <;> rfl
  trans a ha b hb c hc hab hbc := by
    obtain ⟨v, hab, hv⟩ := of_decide_eq_true hab
    obtain ⟨w, hbc, hw⟩ := of_decide_eq_true hbc
    have hAlike : ∀ key ∈ keys, key.Alike a b c :=
      fun key hKey => OrdersColumns.alike (h key hKey) ha hb hc
    exact decide_eq_true ⟨_, compareRows_trans hAlike hab hv hbc hw, hv.andThen hw⟩

/-- To be in the order of the keys is to be stably sorted. -/
theorem sorts_iff {sorted : List Row} :
    Sorts keys rows sorted ↔ IsStableSort (isAtMost keys) rows sorted := by
  have hFilter : ∀ row ∈ rows, ∀ part : List Row, part ⊆ rows →
      part.filter (areTied (isAtMost keys) row) =
        part.filter fun other => compareRows keys row other = .ok .equal :=
    fun row hRow part hPart => List.filter_congr fun other hOther =>
      areTied_isAtMost h hRow (hPart hOther)
  constructor
  · intro hSorts
    refine ⟨hSorts.perm, hSorts.ordered.imp fun hab => decide_eq_true hab, fun row hRow => ?_⟩
    rw [hFilter row hRow sorted hSorts.perm.subset, hFilter row hRow rows (List.Subset.refl rows)]
    exact hSorts.stable row hRow
  · intro hSorts
    refine ⟨hSorts.perm, hSorts.ordered.imp fun hab => of_decide_eq_true hab, fun row hRow => ?_⟩
    rw [← hFilter row hRow sorted hSorts.perm.subset,
      ← hFilter row hRow rows (List.Subset.refl rows)]
    exact hSorts.stable row hRow

end

/-- **Sorting is correct and stable.** If each key column holds whole numbers only, or texts and
other plain cells but no numbers, sorting gives the rows of the table in the order of the keys, and
rows that compare as equal in their old order. No other list has these properties. -/
theorem sort_stable {keys : List SortKey} {rows : List Row}
    (h : ∀ key ∈ keys, IsSortable rows key.column) :
    ∃ sorted, sort keys rows = .ok sorted ∧ Sorts keys rows sorted ∧
      ∀ other, Sorts keys rows other → other = sorted := by
  have hOrder := ordersElements_isAtMost h
  have hSorts := hOrder.isStableSort_mergeSort
  have hSorted : sort keys rows = .ok (rows.mergeSort (isAtMost keys)) := by
    unfold sort
    split
    · next hEmpty =>
      rw [List.isEmpty_iff.1 hEmpty, List.mergeSort_of_pairwise]
      exact List.pairwise_of_forall fun a b => rfl
    · exact mergeSortM_eq_mergeSort fun a ha b hb => inOrder_eq h ha hb
  refine ⟨_, hSorted, (sorts_iff h).2 hSorts, fun other hOther => ?_⟩
  exact ((sorts_iff h).1 hOther).unique hOrder hSorts

/-- Rows with a number beyond the binary64 numbers, texts that differ in case only, and a boolean
beside the text it is written as. -/
def mixedRows : List Row :=
  [twoCells (.int 2) (.text "b"), twoCells (.int (10 ^ 400)) .missing,
    twoCells (.int 2) (.bool true), twoCells (.int 2) (.text "B"),
    twoCells (.int 2) (.text "true")]

theorem sort_stable_mixedRows :
    IsSortable mixedRows "v" ∧ IsSortable mixedRows "k" ∧
      ∃ sorted, sort mixedKeys mixedRows = .ok sorted ∧ Sorts mixedKeys mixedRows sorted ∧
        ∀ other, Sorts mixedKeys mixedRows other → other = sorted := by
  have hWhole : IsSortable mixedRows "v" := by
    refine .inl ?_
    simp only [mixedRows, List.forall_mem_cons]
    exact ⟨⟨2, rfl⟩, ⟨10 ^ 400, rfl⟩, ⟨2, rfl⟩, ⟨2, rfl⟩, ⟨2, rfl⟩, List.forall_mem_nil _⟩
  have hTexts : IsSortable mixedRows "k" := .inr (by decide)
  exact ⟨hWhole, hTexts,
    sort_stable (List.forall_mem_cons.2 ⟨hWhole, List.forall_mem_singleton.2 hTexts⟩)⟩

end SortKey

end TableFlow
