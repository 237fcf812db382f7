import TableFlow.Proofs.Success
import TableFlow.Stage

/-!
# Filters one after the other are one condition

Filters narrow rows down in passes: each one sees only the rows that the earlier ones left. Where
every filter can decide about every row, the passes come to one condition, that all filters keep the
row, and a single pass with it gives the same rows. The condition does not tell in which order the
filters stand, how often each of them occurs, or over how many stages they are spread.

## Main results

* `Filter.select_eq_filter`: one pass.
* `Filter.apply_eq_filter`: all passes.
* `Filter.apply_conjunction`: the filters may be rearranged, repeated and spread over stages.
-/

namespace TableFlow.Filter

/-- Each filter can decide about each row. -/
def Decide (filters : List Filter) (rows : List Row) : Prop :=
  ∀ filter ∈ filters, ∀ row ∈ rows, HasValue (filter.keeps row)

/-- Tells if all filters keep a row. -/
def allKeep (filters : List Filter) (row : Row) : Bool :=
  decide (∀ filter ∈ filters, filter.keeps row = .ok true)

@[simp]
theorem allKeep_nil (row : Row) : allKeep [] row = true := by
  simp [allKeep]

@[simp]
theorem allKeep_cons (filter : Filter) (filters : List Filter) (row : Row) :
    allKeep (filter :: filters) row =
      (decide (filter.keeps row = .ok true) && allKeep filters row) := by
  simp [allKeep]

/-- All filters of two lists keep a row if both lists have the same filters. -/
theorem allKeep_congr {filters others : List Filter}
    (h : ∀ filter, filter ∈ others ↔ filter ∈ filters) (row : Row) :
    allKeep others row = allKeep filters row := by
  simp only [allKeep, h]

/-- A row that more filters keep is kept by some of them. -/
theorem allKeep_of_subset {filters more : List Filter} (h : filters ⊆ more) {row : Row}
    (hKept : allKeep more row = true) : allKeep filters row = true := by
  simp only [allKeep, decide_eq_true_eq] at hKept ⊢
  intro filter hFilter
  exact hKept filter (h hFilter)

theorem Decide.congr {filters others : List Filter} {rows : List Row} (h : Decide filters rows)
    (hSame : ∀ filter, filter ∈ others ↔ filter ∈ filters) : Decide others rows := by
  intro filter hFilter
  exact h filter ((hSame filter).1 hFilter)

/-! ## Passes -/

/-- One pass keeps the rows for which the predicate holds. -/
theorem select_eq_filter {predicate : Row → Except Fault Bool} {rows : List Row}
    (h : ∀ row ∈ rows, HasValue (predicate row)) :
    select predicate rows = .ok (rows.filter fun row => predicate row = .ok true) := by
  induction rows with
  | nil => rfl
  | cons row rows ih =>
      have hRest := ih fun other hOther => h other (List.mem_cons_of_mem row hOther)
      obtain ⟨kept, hKept, -⟩ := h row List.mem_cons_self
      rw [select, hKept, hRest]
      cases kept with
      | true => simp [hKept, bind, Except.bind]
      | false => simp [hKept, bind, Except.bind]

/-- All passes together keep the rows that all filters keep. -/
theorem apply_eq_filter {filters : List Filter} {rows : List Row} (h : Decide filters rows) :
    apply filters rows = .ok (rows.filter (allKeep filters)) := by
  induction filters generalizing rows with
  | nil =>
      have hAll : rows.filter (allKeep []) = rows := by simp
      rw [hAll]
      rfl
  | cons filter filters ih =>
      have hFirst := select_eq_filter (h filter List.mem_cons_self)
      have hRest : Decide filters (rows.filter fun row => filter.keeps row = .ok true) := by
        intro other hOther row hRow
        exact h other (List.mem_cons_of_mem filter hOther) row (List.mem_of_mem_filter hRow)
      rw [apply, hFirst]
      show apply filters (rows.filter fun row => filter.keeps row = .ok true) = _
      rw [ih hRest, List.filter_filter]
      congr 2
      funext row
      rw [allKeep_cons, Bool.and_comm]

/-- Filters in two stages are filters in one. -/
theorem runAll_filter_filter (front back : List Filter) (rows : List Row) :
    Stage.runAll [.filter (front.map .ofFilter), .filter (back.map .ofFilter)] rows =
      apply (front ++ back) rows := by
  simp only [Stage.runAll, Stage.apply, FilterConfig.apply_ofFilters]
  induction front generalizing rows with
  | nil =>
      show (apply back rows >>= Except.ok) = apply back rows
      cases apply back rows <;> rfl
  | cons filter front ih =>
      rw [List.cons_append, apply, apply]
      cases select filter.keeps rows with
      | error fault => rfl
      | ok kept => exact ih kept

/-- **Filters make one condition.** If each filter can decide about each row, the rows that are left
are those that all filters keep, in their order and as often as they occur. The same filters in
another order, with repetitions, or in two stages leave the same rows; so does a second time; and
with more filters, some of these rows are left. -/
theorem apply_conjunction {filters : List Filter} {rows : List Row} (h : Decide filters rows) :
    ∃ kept, apply filters rows = .ok kept ∧
      kept = rows.filter (fun row => ∀ filter ∈ filters, filter.keeps row = .ok true) ∧
      (∀ others : List Filter, (∀ filter, filter ∈ others ↔ filter ∈ filters) →
        apply others rows = .ok kept) ∧
      (∀ front back : List Filter, (∀ filter, filter ∈ front ++ back ↔ filter ∈ filters) →
        Stage.runAll [.filter (front.map .ofFilter), .filter (back.map .ofFilter)] rows =
          .ok kept) ∧
      Stage.runAll [.filter (filters.map .ofFilter), .filter (filters.map .ofFilter)] rows =
        .ok kept ∧
      ∀ more : List Filter, filters ⊆ more → Decide more rows →
        Succeeds (apply more rows) fun fewer => fewer.Sublist kept := by
  have hSame : ∀ others : List Filter, (∀ filter, filter ∈ others ↔ filter ∈ filters) →
      apply others rows = .ok (rows.filter (allKeep filters)) := by
    intro others hOthers
    rw [apply_eq_filter (h.congr hOthers)]
    congr 2
    funext row
    exact allKeep_congr hOthers row
  refine ⟨rows.filter (allKeep filters), apply_eq_filter h, rfl, hSame, ?_, ?_, ?_⟩
  · intro front back hBoth
    rw [runAll_filter_filter]
    exact hSame _ hBoth
  · rw [runAll_filter_filter]
    exact hSame _ (by simp)
  · intro more hMore hDecide
    refine ⟨_, apply_eq_filter hDecide, ?_⟩
    exact List.monotone_filter_right rows fun row hKept => allKeep_of_subset hMore hKept

/-- Rows of which one occurs twice, with numbers and texts mixed and with cells that are missing. -/
def oak : Row := Row.ofEntries [("k", .text "Oak"), ("v", .text " 3 ")]

def ash : Row := Row.ofEntries [("v", .int 2), ("k", .text "ash")]

def elm : Row := Row.ofEntries [("k", .text "elm"), ("v", .float (.infinite false))]

def unnamed : Row := Row.ofEntries [("v", .float .nan)]

def trees : List Row := [oak, elm, oak, unnamed, ash]

/-- A comparison of numbers, one of texts, and an operator that is not known. -/
def treeFilters : List Filter :=
  [⟨"v", "gte", "2", none⟩, ⟨"k", "soundsLike", "x", none⟩, ⟨"k", "contains", "A", none⟩]

theorem apply_conjunction_treeFilters :
    Decide treeFilters trees ∧ apply treeFilters trees = .ok [oak, oak, ash] ∧
      Stage.runAll [.filter (treeFilters.reverse.map .ofFilter),
        .filter (treeFilters.map .ofFilter)] trees = .ok [oak, oak, ash] ∧
      Succeeds (apply (⟨"v", "lt", "3", none⟩ :: treeFilters) trees) fun fewer =>
        fewer.Sublist [oak, oak, ash] := by
  have hDecide : ∀ filter ∈ ⟨"v", "lt", "3", none⟩ :: treeFilters, ∀ row ∈ trees,
      HasValue (filter.keeps row) := by
    decide +kernel
  have hSome : Decide treeFilters trees := (List.forall_mem_cons.1 hDecide).2
  have hKept : allKeep treeFilters oak = true ∧ allKeep treeFilters ash = true := by
    decide +kernel
  have hDropped : allKeep treeFilters elm = false ∧ allKeep treeFilters unnamed = false := by
    decide +kernel
  have hTrees : trees.filter (allKeep treeFilters) = [oak, oak, ash] := by
    simp [trees, hKept, hDropped]
  obtain ⟨kept, hApply, hFilter, -, hSpread, -, hMore⟩ := apply_conjunction hSome
  have hSame : kept = [oak, oak, ash] := hFilter.trans hTrees
  rw [hSame] at hApply hSpread hMore
  exact ⟨hSome, hApply, hSpread _ _ (by simp), hMore _ (by simp) hDecide⟩

end TableFlow.Filter
