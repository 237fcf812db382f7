import Mathlib.Data.List.Perm.Basic
import TableFlow.Proofs.Cell.WholeNumbers
import TableFlow.Proofs.Pipeline.Containment
import TableFlow.Proofs.Reduction.Order
import TableFlow.Proofs.Stage.Columns
import TableFlow.Proofs.Stage.Success

/-!
# Summaries ignore the order of rows

An aggregation and an active pivot do the same with their rows: they make groups of equal keys and
one row for each group. Which rows form a group does not depend on the order of the rows, and
neither does what a reduction that ignores the order makes of it. So rows in another order, be it by
a sort, give the same summary rows in another order.

The signs of zeros are the exception that runs through this module: of two zeros, which one is the
least is told by the order of the rows. So rows are compared by the values of their cells.

## Main results

* `Summary.same_of_rearranged`: groups of rearranged rows have the same keys and summaries.
* `summaries_of_perm`: aggregations, pivots, and configurations with other sort keys.
-/

namespace TableFlow

/-! ## Rows in another order -/

/-- The rows of the second list are those of the first one in some order, up to the signs of
zeros. -/
def Rearranged (rows rows' : List Row) : Prop :=
  ∃ middle, List.Forall₂ Row.SameValues rows middle ∧ middle.Perm rows'

namespace Rearranged

variable {rows rows' : List Row}

theorem of_perm (h : rows.Perm rows') : Rearranged rows rows' :=
  ⟨rows, List.forall₂_same.2 fun row _ => .refl row, h⟩

/-- What depends on the values of rows only is the same for rearranged rows, up to the order. -/
theorem map_perm {α : Type} {f : Row → α}
    (hf : ∀ row row' : Row, row.SameValues row' → f row = f row') (h : Rearranged rows rows') :
    (rows.map f).Perm (rows'.map f) := by
  obtain ⟨middle, hSame, hPerm⟩ := h
  rw [map_eq_map_of_forall₂ hSame hf]
  exact hPerm.map f

theorem filter {p : Row → Bool} (hp : ∀ row row' : Row, row.SameValues row' → p row = p row')
    (h : Rearranged rows rows') : Rearranged (rows.filter p) (rows'.filter p) := by
  obtain ⟨middle, hSame, hPerm⟩ := h
  refine ⟨middle.filter p, List.rel_filter (fun row row' hRows => ?_) hSame, hPerm.filter p⟩
  exact iff_of_eq (congrArg (· = true) (hp row row' hRows))

theorem length_eq (h : Rearranged rows rows') : rows.length = rows'.length := by
  simpa using (h.map_perm (f := fun _ => ()) fun _ _ _ => rfl).length_eq

/-- A column of rearranged rows holds the same numbers. -/
theorem sameNumbers (h : Rearranged rows rows') {column : String} {xs ys : List Binary64}
    (hx : columnNumbers rows column = .ok xs) (hy : columnNumbers rows' column = .ok ys) :
    SameNumbers xs ys := by
  obtain ⟨all, hAll, hx⟩ := bind_eq_ok_iff.1 hx
  obtain ⟨all', hAll', hy⟩ := bind_eq_ok_iff.1 hy
  cases hx
  cases hy
  refine SameNumbers.filter_not_isNaN ?_
  have hPlaces {rows : List Row} {xs : List Binary64}
      (h : (rows.mapM fun row => (row.get column).toNumber) = .ok xs) :
      (xs.map fun x => (.ok x.rank : Except Fault (Option Int))) =
        rows.map fun row => (row.get column).toNumber.map Binary64.rank :=
    map_of_mapM (fun row x hNumber => by rw [hNumber]; rfl) h
  have hPerm := h.map_perm (f := fun row => (row.get column).toNumber.map Binary64.rank)
    fun row row' hRows => (hRows.cells column).rank_of_toNumber
  rw [← hPlaces hAll, ← hPlaces hAll'] at hPerm
  have hInjective : Function.Injective (Except.ok : Option Int → Except Fault (Option Int)) :=
    fun _ _ => Except.ok.inj
  refine (List.map_perm_map_iff hInjective).1 ?_
  rwa [List.map_map, List.map_map]

end Rearranged

namespace Row

theorem SameValues.set {row row' : Row} (h : row.SameValues row') (name : String) {a b : Cell}
    (hCell : a.SameValue b) : (row.set name a).SameValues (row'.set name b) where
  columns := by rw [columns_set, columns_set, h.columns]
  cells := by
    intro column
    unfold get
    by_cases hName : column = name
    · rw [hName, get?_set_self, get?_set_self]
      exact hCell
    · rw [get?_set_of_ne row a hName, get?_set_of_ne row' b hName]
      exact h.cells column

/-- Cells of the same values under the same names make rows of the same values. -/
theorem sameValues_ofEntries {entries entries' : List (String × Cell)}
    (h : List.Forall₂ (fun entry entry' => entry.1 = entry'.1 ∧ entry.2.SameValue entry'.2)
      entries entries') : (ofEntries entries).SameValues (ofEntries entries') := by
  suffices hFold : ∀ row row' : Row, row.SameValues row' →
      (entries.foldl (fun row entry => row.set entry.1 entry.2) row).SameValues
        (entries'.foldl (fun row entry => row.set entry.1 entry.2) row') from
    hFold empty empty (.refl empty)
  induction h with
  | nil => exact fun row row' hRows => hRows
  | @cons entry entry' _ _ hFirst hRest ih =>
      intro row row' hRows
      obtain ⟨name, a⟩ := entry
      obtain ⟨name', b⟩ := entry'
      obtain ⟨rfl, hCell⟩ := hFirst
      exact ih _ _ (hRows.set name hCell)

end Row

/-! ## Summaries of groups -/

namespace Summary

variable {key : Row → Except Fault String} {summary : String → List Row → Except Fault Row}
  {rows rows' out out' : List Row}

/-- There is one summary for each key of the rows, made of the rows with that key. -/
structure PerKey (key : Row → Except Fault String) (summary : String → List Row → Except Fault Row)
    (rows : List Row) (keys : List String) (row : String → Row) : Prop where
  nodup : keys.Nodup
  mem_iff : ∀ k, k ∈ keys ↔ ∃ row ∈ rows, key row = .ok k
  summary_eq : ∀ k ∈ keys, summary k (rows.filter fun row => key row = .ok k) = .ok (row k)

/-- Two outputs are summaries of two lists of rows: they have the same keys, and rows of the same
values for each key. -/
def Same (key : Row → Except Fault String) (summary : String → List Row → Except Fault Row)
    (rows rows' out out' : List Row) : Prop :=
  ∃ keys keys' : List String, ∃ row row' : String → Row,
    (PerKey key summary rows keys row ∧ out = keys.map row) ∧
    (PerKey key summary rows' keys' row' ∧ out' = keys'.map row') ∧
    keys.Perm keys' ∧ ∀ k ∈ keys, (row k).SameValues (row' k)

theorem hasValue_key_of_groupRows {groups : Groups Row} (h : groupRows key rows = .ok groups) :
    ∀ row ∈ rows, HasValue (key row) := by
  obtain ⟨keyed, hKeyed, -⟩ := bind_eq_ok_iff.1 h
  intro row hRow
  obtain ⟨_, -, hPair⟩ := exists_value_of_mapM hKeyed row hRow
  obtain ⟨k, hKey, -⟩ := bind_eq_ok_iff.1 hPair
  exact ⟨k, hKey, trivial⟩

theorem exists_of_summarizeBy (h : summarizeBy key summary rows = .ok out) :
    ∃ keys row, PerKey key summary rows keys row ∧ out = keys.map row := by
  obtain ⟨groups, hGroups, h⟩ := bind_eq_ok_iff.1 h
  obtain ⟨keys, hNodup, hKeys, hEq⟩ := exists_groupRows_eq (hasValue_key_of_groupRows hGroups)
  cases hEq.symm.trans hGroups
  rw [List.mapM_map] at h
  obtain ⟨row, hOut, hRow⟩ := exists_map_of_mapM h
  exact ⟨keys, row, ⟨hNodup, hKeys, hRow⟩, hOut⟩

/-- **Groups of rearranged rows have the same summaries**, if keys and summaries tell rows apart by
the values of their cells only. -/
theorem same_of_rearranged
    (hKey : ∀ row row' : Row, row.SameValues row' → key row = key row')
    (hSummary : ∀ k group group' row row', Rearranged group group' →
      summary k group = .ok row → summary k group' = .ok row' → row.SameValues row')
    (h : Rearranged rows rows') (hOut : summarizeBy key summary rows = .ok out)
    (hOut' : summarizeBy key summary rows' = .ok out') :
    Same key summary rows rows' out out' := by
  obtain ⟨keys, row, hPerKey, hOut⟩ := exists_of_summarizeBy hOut
  obtain ⟨keys', row', hPerKey', hOut'⟩ := exists_of_summarizeBy hOut'
  have hKeys : ∀ k, k ∈ keys ↔ k ∈ keys' := by
    intro k
    have hMem := (h.map_perm hKey).mem_iff (a := .ok k)
    rw [List.mem_map, List.mem_map] at hMem
    rw [hPerKey.mem_iff, hPerKey'.mem_iff, hMem]
  have hPerm := (List.perm_ext_iff_of_nodup hPerKey.nodup hPerKey'.nodup).2 hKeys
  refine ⟨keys, keys', row, row', ⟨hPerKey, hOut⟩, ⟨hPerKey', hOut'⟩, hPerm, fun k hk => ?_⟩
  have hGroups := h.filter (p := fun row => key row = .ok k) fun row row' hRows => by
    rw [hKey row row' hRows]
  exact hSummary k _ _ _ _ hGroups (hPerKey.summary_eq k hk)
    (hPerKey'.summary_eq k ((hKeys k).1 hk))

theorem Same.rearranged (h : Same key summary rows rows' out out') : Rearranged out out' := by
  obtain ⟨keys, keys', row, row', ⟨-, rfl⟩, ⟨-, rfl⟩, hPerm, hSame⟩ := h
  refine ⟨keys.map row', ?_, hPerm.map row'⟩
  rw [List.forall₂_map_left_iff, List.forall₂_map_right_iff]
  exact List.forall₂_same.2 hSame

end Summary

/-! ## Aggregations -/

namespace Aggregation

variable {aggregation : Aggregation} {rows rows' out out' : List Row}

theorem sameValue_of_value (hOperation : aggregation.operation ∈ Reduction.ignoringOrder)
    (h : Rearranged rows rows') {a b : Cell} (ha : aggregation.value rows = .ok a)
    (hb : aggregation.value rows' = .ok b) : a.SameValue b := by
  unfold value at ha hb
  cases hCase : aggregation.operation with
  | count =>
      rw [hCase] at ha hb
      cases ha
      cases hb
      rw [h.length_eq]
      exact .refl _
  | sum => exact absurd (hCase ▸ hOperation) (by decide)
  | mean => exact absurd (hCase ▸ hOperation) (by decide)
  | _ =>
      rw [hCase] at ha hb hOperation
      obtain ⟨xs, hxs, ha⟩ := bind_eq_ok_iff.1 ha
      obtain ⟨ys, hys, hb⟩ := bind_eq_ok_iff.1 hb
      cases ha
      cases hb
      exact Reduction.sameValue_reduce hOperation (h.sameNumbers hxs hys)

theorem sameValues_of_summary (hOperation : aggregation.operation ∈ Reduction.ignoringOrder)
    {k : String} {row row' : Row} (h : Rearranged rows rows')
    (hRow : aggregation.summary k rows = .ok row) (hRow' : aggregation.summary k rows' = .ok row') :
    row.SameValues row' := by
  obtain ⟨a, ha, hRow⟩ := bind_eq_ok_iff.1 hRow
  obtain ⟨b, hb, hRow'⟩ := bind_eq_ok_iff.1 hRow'
  cases hRow
  cases hRow'
  have hValue := sameValue_of_value hOperation h ha hb
  refine Row.sameValues_ofEntries
    (.cons ⟨rfl, .refl _⟩ (.cons ⟨rfl, ?_⟩ (.cons ⟨rfl, hValue⟩ .nil)))
  rw [h.length_eq]
  exact .refl _

theorem same_of_apply (hOperation : aggregation.operation ∈ Reduction.ignoringOrder)
    (h : Rearranged rows rows') (hOut : aggregation.apply rows = .ok out)
    (hOut' : aggregation.apply rows' = .ok out') :
    Summary.Same aggregation.key aggregation.summary rows rows' out out' :=
  Summary.same_of_rearranged (fun _ _ hRows => (hRows.cells aggregation.column).toText_eq)
    (fun _ _ _ _ _ => sameValues_of_summary hOperation) h hOut hOut'

end Aggregation

theorem AggregationConfig.rearranged_of_apply {config : AggregationConfig}
    {rows rows' out out' : List Row} (hOperation : config.operation ∈ Reduction.ignoringOrder)
    (h : Rearranged rows rows') (hOut : config.apply rows = .ok out)
    (hOut' : config.apply rows' = .ok out') : Rearranged out out' := by
  unfold apply at hOut hOut'
  cases hFound : config.toAggregation? with
  | some aggregation =>
      rw [hFound] at hOut hOut'
      obtain ⟨column, -, rfl⟩ := Option.map_eq_some_iff.1 hFound
      exact (Aggregation.same_of_apply hOperation h hOut hOut').rearranged
  | none =>
      rw [hFound] at hOut hOut'
      rw [(Row.eq_nil_of_unnamed hOut).2, (Row.eq_nil_of_unnamed hOut').2]
      exact .of_perm .nil

/-! ## Pivots -/

namespace Pivot

variable {pivot : Pivot} {rows rows' out out' : List Row}

theorem key_eq_of_sameValues {row row' : Row} (h : row.SameValues row') :
    pivot.key row = pivot.key row' := by
  have hLabels : pivot.labels row = pivot.labels row' :=
    mapM_congr_left fun column _ => (h.cells column).toText_eq
  rw [key, key, hLabels]

theorem sameValues_of_summary (hOperation : pivot.aggregation.reduction ∈ Reduction.ignoringOrder)
    {k : String} {row row' : Row} (h : Rearranged rows rows')
    (hRow : pivot.summary k rows = .ok row) (hRow' : pivot.summary k rows' = .ok row') :
    row.SameValues row' := by
  obtain ⟨values, hValues, hRow⟩ := bind_eq_ok_iff.1 hRow
  obtain ⟨values', hValues', hRow'⟩ := bind_eq_ok_iff.1 hRow'
  cases hRow
  cases hRow'
  refine Row.sameValues_ofEntries (List.rel_append ?_ ?_)
  · exact List.forall₂_same.2 fun entry _ => ⟨rfl, .refl _⟩
  · refine forall₂_trans (fun entry column entry' hEntry hEntry' => ?_)
      (forall₂_of_mapM hValues).flip (forall₂_of_mapM hValues')
    obtain ⟨xs, hxs, hEntry⟩ := bind_eq_ok_iff.1 hEntry
    obtain ⟨ys, hys, hEntry'⟩ := bind_eq_ok_iff.1 hEntry'
    cases hEntry
    cases hEntry'
    exact ⟨rfl, Reduction.sameValue_reduce hOperation (h.sameNumbers hxs hys)⟩

theorem same_of_apply (hOperation : pivot.aggregation.reduction ∈ Reduction.ignoringOrder)
    (hActive : pivot.isActive) (h : Rearranged rows rows') (hOut : pivot.apply rows = .ok out)
    (hOut' : pivot.apply rows' = .ok out') :
    Summary.Same pivot.key pivot.summary rows rows' out out' := by
  rw [apply_of_isActive hActive] at hOut hOut'
  exact Summary.same_of_rearranged (fun _ _ => key_eq_of_sameValues)
    (fun _ _ _ _ _ => sameValues_of_summary hOperation) h hOut hOut'

theorem rearranged_of_apply
    (hOperation : pivot.aggregation.reduction ∈ Reduction.ignoringOrder)
    (h : Rearranged rows rows') (hOut : pivot.apply rows = .ok out)
    (hOut' : pivot.apply rows' = .ok out') : Rearranged out out' := by
  cases hActive : pivot.isActive with
  | true => exact (same_of_apply hOperation hActive h hOut hOut').rearranged
  | false =>
      simp only [apply, hActive] at hOut hOut'
      cases hOut
      cases hOut'
      exact h

end Pivot

theorem PivotConfig.rearranged_of_apply {config : PivotConfig} {rows rows' out out' : List Row}
    (hOperation : config.aggregation.reduction ∈ Reduction.ignoringOrder)
    (h : Rearranged rows rows') (hOut : config.apply rows = .ok out)
    (hOut' : config.apply rows' = .ok out') : Rearranged out out' := by
  cases hActive : config.isActive with
  | false =>
      simp only [apply, hActive] at hOut hOut'
      cases hOut
      cases hOut'
      exact h
  | true =>
      rw [apply, if_pos hActive] at hOut hOut'
      cases hFound : config.toPivot? with
      | some pivot =>
          rw [hFound] at hOut hOut'
          have hReduction : pivot.aggregation = config.aggregation := by
            obtain ⟨_, -, hRest⟩ := Option.bind_eq_some_iff.1 hFound
            obtain ⟨_, -, hRest⟩ := Option.bind_eq_some_iff.1 hRest
            cases hRest
            rfl
          exact Pivot.rearranged_of_apply (hReduction ▸ hOperation) h hOut hOut'
      | none =>
          rw [hFound] at hOut hOut'
          rw [(Row.eq_nil_of_unnamed hOut).2, (Row.eq_nil_of_unnamed hOut').2]
          exact .of_perm .nil

/-! ## Configurations -/

namespace Configuration

variable {config : Configuration} {rows out out' : List Row}

/-- The reductions that are configured ignore the order of the rows. -/
structure IgnoresOrder (config : Configuration) : Prop where
  aggregation : ∀ aggregation ∈ config.aggregation,
    aggregation.operation ∈ Reduction.ignoringOrder
  pivot : ∀ pivot ∈ config.activePivot?, pivot.aggregation.reduction ∈ Reduction.ignoringOrder

/-- Other sort keys give the same rows before the formulas, in another order. -/
theorem rearranged_of_summarize (hIgnores : config.IgnoresOrder) {keys keys' : List SortConfig}
    (hOut : { config with sort := keys }.summarize rows = .ok out)
    (hOut' : { config with sort := keys' }.summarize rows = .ok out') : Rearranged out out' := by
  obtain ⟨filtered, hFiltered, hLater⟩ := bind_eq_ok_iff.1 hOut
  obtain ⟨sorted, hSorted, hLast⟩ := bind_eq_ok_iff.1 hLater
  obtain ⟨aggregated, hAggregated, hPivoted⟩ := bind_eq_ok_iff.1 hLast
  obtain ⟨filtered', hFiltered', hLater'⟩ := bind_eq_ok_iff.1 hOut'
  obtain ⟨sorted', hSorted', hLast'⟩ := bind_eq_ok_iff.1 hLater'
  obtain ⟨aggregated', hAggregated', hPivoted'⟩ := bind_eq_ok_iff.1 hLast'
  cases hFiltered.symm.trans hFiltered'
  rw [unlessEmpty_sort] at hSorted hSorted'
  have hRows : Rearranged sorted sorted' :=
    .of_perm ((SortConfig.perm_of_sort hSorted).trans (SortConfig.perm_of_sort hSorted').symm)
  have hSummaries : Rearranged aggregated aggregated' := by
    cases hCase : config.aggregation with
    | none =>
        simp only [hCase] at hAggregated hAggregated'
        cases hAggregated
        cases hAggregated'
        exact hRows
    | some aggregation =>
        simp only [hCase] at hAggregated hAggregated'
        exact AggregationConfig.rearranged_of_apply (hIgnores.aggregation aggregation hCase) hRows
          hAggregated hAggregated'
  have hPivot : ∀ keys : List SortConfig, { config with sort := keys }.activePivot? =
      config.activePivot? := fun _ => rfl
  rw [hPivot] at hPivoted hPivoted'
  cases hCase : config.activePivot? with
  | none =>
      rw [hCase] at hPivoted hPivoted'
      cases hPivoted
      cases hPivoted'
      exact hSummaries
  | some pivot =>
      rw [hCase] at hPivoted hPivoted'
      exact PivotConfig.rearranged_of_apply (hIgnores.pivot pivot hCase) hSummaries hPivoted
        hPivoted'

end Configuration

/-- **Summaries do not depend on the order of the rows**, if whole numbers fit the format and the
reduction is the count, the median, the least or the greatest number. For rows in any other order,
an aggregation and an active pivot give rows for the same keys, and for each key a row with the same
count and equal reductions; only the order of these rows can differ. So other sort keys, or none,
change no value of the rows before the formulas, as long as sorting succeeds. -/
theorem summaries_of_perm {rows rows' : List Row} (hPerm : rows.Perm rows')
    (hFits : ∀ row ∈ rows, row.FitsFormat) :
    (∀ aggregation : Aggregation, aggregation.operation ∈ Reduction.ignoringOrder →
      ∃ out out', aggregation.apply rows = .ok out ∧ aggregation.apply rows' = .ok out' ∧
        Summary.Same aggregation.key aggregation.summary rows rows' out out') ∧
    (∀ pivot : Pivot, pivot.aggregation.reduction ∈ Reduction.ignoringOrder →
      ∃ out out', pivot.apply rows = .ok out ∧ pivot.apply rows' = .ok out' ∧ Rearranged out out' ∧
        (pivot.isActive → Summary.Same pivot.key pivot.summary rows rows' out out')) ∧
    ∀ (config : Configuration) (keys keys' : List SortConfig) (out out' : List Row),
      config.IgnoresOrder → { config with sort := keys }.summarize rows = .ok out →
        { config with sort := keys' }.summarize rows = .ok out' → Rearranged out out' := by
  have hConverts : ∀ row ∈ rows, row.Converts := fun row hRow => (hFits row hRow).converts
  have hConverts' : ∀ row ∈ rows', row.Converts :=
    fun row hRow => hConverts row (hPerm.mem_iff.2 hRow)
  refine ⟨fun aggregation hOperation => ?_, fun pivot hOperation => ?_,
    fun config keys keys' out out' hIgnores => Configuration.rearranged_of_summarize hIgnores⟩
  · obtain ⟨out, hOut, -⟩ := aggregation.hasValue_apply hConverts
    obtain ⟨out', hOut', -⟩ := aggregation.hasValue_apply hConverts'
    exact ⟨out, out', hOut, hOut', Aggregation.same_of_apply hOperation (.of_perm hPerm) hOut hOut'⟩
  · obtain ⟨out, hOut, -⟩ := pivot.hasValue_apply hConverts
    obtain ⟨out', hOut', -⟩ := pivot.hasValue_apply hConverts'
    exact ⟨out, out', hOut, hOut', Pivot.rearranged_of_apply hOperation (.of_perm hPerm) hOut hOut',
      fun hActive => Pivot.same_of_apply hOperation hActive (.of_perm hPerm) hOut hOut'⟩

/-- The cells of rows of which three share the key `1`. Which of their zeros is the least depends on
the order. -/
def sharedKeyEntries : List (List (String × Cell)) := [
  [("k", .int 1), ("v", .float .zero)],
  [("k", .text "1"), ("v", .float (.finite true 0 Binary64.isMagnitude_zero))],
  [("k", .text "a"), ("v", .text " 2 ")],
  [("v", .bool true), ("k", .float (Binary64.nearestInt 1))]]

def sharedKeyRows : List Row := sharedKeyEntries.map Row.ofEntries

def leastByKey : Pivot := ⟨["k"], [], ["v"], .least⟩

/-- An aggregation that a pivot follows. -/
def greatestMedians : Configuration :=
  { aggregation := some ⟨.text "v", .median⟩
    pivot := some ⟨[.text "_count"], [], [.text "_value"], .greatest⟩ }

theorem summaries_of_perm_sharedKeyRows :
    (∃ out out', leastByKey.apply sharedKeyRows = .ok out ∧
      leastByKey.apply sharedKeyRows.reverse = .ok out' ∧
      Summary.Same leastByKey.key leastByKey.summary sharedKeyRows sharedKeyRows.reverse out out') ∧
    ∃ out out', greatestMedians.summarize sharedKeyRows = .ok out ∧
      { greatestMedians with sort := [⟨.text "v", .descending⟩] }.summarize sharedKeyRows =
        .ok out' ∧
      Rearranged out out' := by
  obtain ⟨-, hPivot, hSort⟩ :=
    summaries_of_perm (List.reverse_perm sharedKeyRows).symm (by decide +kernel)
  constructor
  · obtain ⟨out, out', hOut, hOut', -, hSame⟩ := hPivot leastByKey (by decide)
    exact ⟨out, out', hOut, hOut', hSame rfl⟩
  · have hPlain : PlainTable sharedKeyRows := by
      refine ⟨fun row hRow => ?_, by decide +kernel⟩
      obtain ⟨entries, hEntries, rfl⟩ := List.mem_map.1 hRow
      have hCells : ∀ entries ∈ sharedKeyEntries, ∀ entry ∈ entries, entry.2.IsPlain := by
        decide +kernel
      exact Row.forall_get_ofEntries Cell.isPlain_missing (hCells entries hEntries)
    have hNames : greatestMedians.HasTextNames := ⟨nofun, nofun, by decide, by decide, nofun⟩
    have hNames' :
        Configuration.HasTextNames { greatestMedians with sort := [⟨.text "v", .descending⟩] } :=
      { hNames with sort := by decide }
    obtain ⟨out, hOut, -⟩ := Configuration.hasValue_summarize hNames hPlain
    obtain ⟨out', hOut', -⟩ := Configuration.hasValue_summarize hNames' hPlain
    have hIgnores : greatestMedians.IgnoresOrder := ⟨by decide, by decide⟩
    exact ⟨out, out', hOut, hOut', hSort greatestMedians [] _ out out' hIgnores hOut hOut'⟩

end TableFlow
