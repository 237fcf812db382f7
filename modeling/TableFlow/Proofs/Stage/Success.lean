import TableFlow.Profile
import TableFlow.Proofs.Cell.Empty
import TableFlow.Proofs.Cell.Plain
import TableFlow.Proofs.Stage.Columns

/-!
# Stages succeed on plain tables

Each stage before the formulas, and the profiles, give a result for a plain table. What a stage asks
of the cells differs: sorting compares texts and needs plain cells, while grouping, reducing and
profiling need no more than that each cell converts to a text and a number. The count of a group is
a cell as well, which is why a plain table has no more rows than a binary64 number reaches.

## Main results

* `FilterConfig.succeeds_apply` and `SortConfig.succeeds_sort`: the rows that are left are rows of
  the table.
* `Aggregation.succeeds_apply`: the summary rows convert again.
* `Aggregation.hasValue_apply`, `Pivot.hasValue_apply` and `Profile.hasValue_ofColumn`: rows that
  convert are enough.
* `Profile.hasValue_ofColumns_iff`: all the profiles exist if the texts can be encoded.
-/

namespace TableFlow

/-- Rows with a property, and a count of them that is plain. Every count up to `2¹⁰²³` is, so no
table that a machine can hold is left out. -/
structure TableOf (good : Row → Prop) (rows : List Row) : Prop where
  row : ∀ row ∈ rows, good row
  count : (Cell.int rows.length).IsPlain

/-- A table of plain cells. -/
abbrev PlainTable := TableOf Row.IsPlain

theorem isPlain_length_of_le {m n : Nat} (h : m ≤ n) (hn : (Cell.int n).IsPlain) :
    (Cell.int m).IsPlain :=
  @Binary64.ofInt?_isSome_of_le m n h hn

theorem PlainTable.converts {rows : List Row} (h : PlainTable rows) : TableOf Row.Converts rows :=
  ⟨fun row hRow => (h.row row hRow).converts, h.count⟩

section

variable {good : Row → Prop} {rows rows' : List Row}

theorem TableOf.sublist (h : TableOf good rows) (hKept : rows'.Sublist rows) :
    TableOf good rows' :=
  ⟨fun row hRow => h.row row (hKept.mem hRow), isPlain_length_of_le hKept.length_le h.count⟩

theorem TableOf.perm (h : TableOf good rows) (hSorted : rows'.Perm rows) : TableOf good rows' :=
  ⟨fun row hRow => h.row row (hSorted.mem_iff.1 hRow), by rw [hSorted.length_eq]; exact h.count⟩

end

/-! ## Filters -/

namespace Filter

theorem hasValue_relatesText (relation : List Char → List Char → Bool) (value : String)
    {cell : Cell} (h : cell.Converts) :
    HasValue (relatesText relation value cell) :=
  h.1.bind fun _ _ => .ok trivial

theorem hasValue_relatesNumber (predicate : Binary64 → Bool) {cell : Cell} (h : cell.Converts) :
    HasValue (relatesNumber predicate cell) :=
  h.2.bind fun _ _ => .ok trivial

theorem hasValue_keepsCell (operator : Operator) (value : String) (value2 : Option String)
    {cell : Cell} (h : cell.Converts) :
    HasValue (keepsCell operator value value2 cell) := by
  cases operator with
  | equals => exact hasValue_relatesText (fun v t => t == v) value h
  | contains => exact hasValue_relatesText _ _ h
  | startsWith => exact hasValue_relatesText _ _ h
  | endsWith => exact hasValue_relatesText _ _ h
  | greater => exact hasValue_relatesNumber _ h
  | less => exact hasValue_relatesNumber _ h
  | greaterOrEqual => exact hasValue_relatesNumber _ h
  | lessOrEqual => exact hasValue_relatesNumber _ h
  | between => exact hasValue_relatesNumber _ h
  | isEmpty => exact .ok trivial
  | isNotEmpty => exact .ok trivial

theorem hasValue_select {predicate : Row → Except Fault Bool} {rows : List Row}
    (h : ∀ row ∈ rows, HasValue (predicate row)) : HasValue (select predicate rows) := by
  induction rows with
  | nil => exact .ok trivial
  | cons row rows ih =>
      obtain ⟨hFirst, hRest⟩ := List.forall_mem_cons.1 h
      exact hFirst.bind fun _ _ => (ih hRest).bind fun _ _ => .ok trivial

end Filter

namespace FilterConfig

theorem hasValue_keeps {filter : FilterConfig} (hName : filter.column.IsText) {row : Row}
    (h : row.Converts) : HasValue (filter.keeps row) := by
  obtain ⟨column, hColumn⟩ := hName
  unfold keeps
  rw [hColumn]
  split
  · exact Filter.hasValue_keepsCell _ _ _ (h column)
  · exact .ok trivial

/-- Filtering keeps some of the rows. -/
theorem succeeds_apply {filters : List FilterConfig}
    (hNames : ∀ filter ∈ filters, filter.column.IsText) {rows : List Row}
    (h : ∀ row ∈ rows, row.Converts) :
    Succeeds (apply filters rows) fun kept => kept.Sublist rows := by
  have hValue : HasValue (apply filters rows) := by
    induction filters generalizing rows with
    | nil => exact .ok trivial
    | cons filter filters ih =>
        obtain ⟨hName, hNames⟩ := List.forall_mem_cons.1 hNames
        have hFirst : HasValue (Filter.select filter.keeps rows) :=
          Filter.hasValue_select fun row hRow => hasValue_keeps hName (h row hRow)
        refine (hFirst.succeeds fun _ => Filter.sublist_of_select).bind fun kept hKept => ?_
        exact ih hNames fun row hRow => h row (hKept.mem hRow)
  exact hValue.succeeds fun _ => sublist_of_apply

end FilterConfig

/-! ## Sorting -/

theorem hasValue_compareTexts {s t : String} (hs : NulFree s.toList) (ht : NulFree t.toList) :
    HasValue (compareTexts s t) := by
  unfold compareTexts
  rw [if_neg (not_or.2 ⟨hs, ht⟩)]
  exact .ok trivial

namespace Cell

theorem IsPlain.hasValue_difference {a b : Cell} (ha : a.IsPlain) (hb : b.IsPlain) :
    HasValue (a.difference b) := by
  unfold difference
  split
  · exact .ok trivial
  · split
    · exact ha.hasValue_toNumber.bind fun _ _ => hb.hasValue_toNumber.bind fun _ _ => .ok trivial
    · refine ha.succeeds_toText.bind fun s hs => hb.succeeds_toText.bind fun t ht => ?_
      exact (hasValue_compareTexts hs ht).bind fun _ _ => .ok trivial

theorem IsPlain.hasValue_compare {a b : Cell} (ha : a.IsPlain) (hb : b.IsPlain) :
    HasValue (a.compare b) :=
  (ha.hasValue_difference hb).bind fun _ _ => .ok trivial

end Cell

namespace SortConfig

theorem hasValue_compareRows {keys : List SortConfig} (hNames : ∀ key ∈ keys, key.column.IsText)
    {left right : Row} (hLeft : left.IsPlain) (hRight : right.IsPlain) :
    HasValue (compareRows keys left right) := by
  induction keys with
  | nil => exact .ok trivial
  | cons key keys ih =>
      obtain ⟨⟨column, hColumn⟩, hNames⟩ := List.forall_mem_cons.1 hNames
      have hKey : HasValue (key.compare left right) := by
        unfold compare
        rw [hColumn]
        exact ((hLeft column).hasValue_compare (hRight column)).bind fun _ _ => .ok trivial
      refine hKey.bind fun verdict _ => ?_
      split
      · exact ih hNames
      · exact .ok trivial

/-- Sorting plain rows gives the same rows in some order. -/
theorem succeeds_sort {keys : List SortConfig} (hNames : ∀ key ∈ keys, key.column.IsText)
    {rows : List Row} (h : ∀ row ∈ rows, row.IsPlain) :
    Succeeds (sort keys rows) fun sorted => sorted.Perm rows := by
  unfold sort
  split
  · exact .ok (.refl rows)
  · refine succeeds_mergeSortM (fun left right hLeft hRight => ?_) h
    exact (hasValue_compareRows hNames hRight hLeft).bind fun _ _ => .ok trivial

end SortConfig

/-! ## Reductions -/

theorem succeeds_columnNumbers {rows : List Row} (h : ∀ row ∈ rows, row.Converts)
    (column : String) :
    Succeeds (columnNumbers rows column) fun xs => xs.length ≤ rows.length := by
  have hNumbers : Succeeds (rows.mapM fun row => (row.get column).toNumber) fun xs =>
      xs.length = rows.length ∧ ∀ x ∈ xs, True :=
    succeeds_mapM fun row hRow => (h row hRow column).2
  refine hNumbers.bind fun xs hLength => .ok ?_
  rw [← hLength.1]
  exact List.length_filter_le _ xs

theorem Reduction.converts_cellOfNumber? (x? : Option Binary64) :
    (cellOfNumber? x?).Converts := by
  cases x? with
  | none => exact Cell.converts_missing
  | some x => exact Cell.converts_float x

theorem Reduction.converts_reduce (operation : Reduction) {xs : List Binary64}
    (h : (Cell.int xs.length).IsPlain) : (operation.reduce xs).Converts := by
  cases operation with
  | sum => exact Cell.converts_float _
  | mean => exact converts_cellOfNumber? _
  | median => exact converts_cellOfNumber? _
  | count => exact h.converts
  | least => exact converts_cellOfNumber? _
  | greatest => exact converts_cellOfNumber? _

/-! ## Aggregations and pivots -/

namespace Aggregation

theorem succeeds_value (aggregation : Aggregation) {group : List Row}
    (h : TableOf Row.Converts group) : Succeeds (aggregation.value group) Cell.Converts := by
  unfold value
  split
  · exact .ok h.count.converts
  · refine (succeeds_columnNumbers h.row aggregation.column).bind fun xs hLength => .ok ?_
    split
    · exact (isPlain_length_of_le (Nat.zero_le _) h.count).converts
    · exact Reduction.converts_reduce _ (isPlain_length_of_le hLength h.count)

theorem succeeds_summary (aggregation : Aggregation) (key : String) {group : List Row}
    (h : TableOf Row.Converts group) :
    Succeeds (aggregation.summary key group) Row.Converts := by
  refine (aggregation.succeeds_value h).bind fun value hValue => .ok ?_
  apply Row.forall_get_ofEntries Cell.converts_missing
  intro entry hEntry
  simp only [List.mem_cons, List.not_mem_nil, or_false] at hEntry
  rcases hEntry with rfl | rfl | rfl
  · exact Cell.converts_text key
  · exact h.count.converts
  · exact hValue

/-- Aggregating rows that convert gives such rows. -/
theorem succeeds_apply (aggregation : Aggregation) {rows : List Row}
    (h : TableOf Row.Converts rows) :
    Succeeds (aggregation.apply rows) fun summaries => ∀ row ∈ summaries, row.Converts := by
  have hGroups := succeeds_groupRows fun row hRow => (h.row row hRow aggregation.column).1
  refine hGroups.bind fun groups hSublist => ?_
  refine (succeeds_mapM fun group hGroup => ?_).mono fun _ hSummaries => hSummaries.2
  exact aggregation.succeeds_summary group.1 (h.sublist (hSublist group hGroup))

/-- Aggregating rows that convert succeeds, however many rows there are. -/
theorem hasValue_apply (aggregation : Aggregation) {rows : List Row}
    (h : ∀ row ∈ rows, row.Converts) : HasValue (aggregation.apply rows) := by
  refine hasValue_summarizeBy (fun row hRow => (h row hRow aggregation.column).1) ?_
  intro k group hGroup
  have hValue : HasValue (aggregation.value group) := by
    unfold value
    split
    · exact .ok trivial
    · exact (succeeds_columnNumbers (fun row hRow => h row (hGroup.mem hRow)) _).bind
        fun _ _ => .ok trivial
  exact hValue.bind fun _ _ => .ok trivial

end Aggregation

namespace Pivot

theorem hasValue_key (layout : Pivot) {row : Row} (h : row.Converts) :
    HasValue (layout.key row) := by
  have hLabels : HasValue (layout.labels row) := hasValue_mapM fun column _ => (h column).1
  exact hLabels.bind fun _ _ => .ok trivial

theorem hasValue_summary (layout : Pivot) (key : String) {group : List Row}
    (h : ∀ row ∈ group, row.Converts) : HasValue (layout.summary key group) := by
  have hValues : HasValue (layout.valueEntries group) :=
    hasValue_mapM fun column _ => (succeeds_columnNumbers h column).bind fun _ _ => .ok trivial
  exact hValues.bind fun _ _ => .ok trivial

/-- Pivoting rows that convert succeeds. -/
theorem hasValue_apply (layout : Pivot) {rows : List Row} (h : ∀ row ∈ rows, row.Converts) :
    HasValue (layout.apply rows) := by
  unfold apply
  split
  · refine hasValue_summarizeBy (fun row hRow => layout.hasValue_key (h row hRow)) ?_
    exact fun k group hGroup => layout.hasValue_summary k fun row hRow => h row (hGroup.mem hRow)
  · exact .ok trivial

end Pivot

namespace AggregationConfig

theorem succeeds_apply {aggregation : AggregationConfig} (hName : aggregation.column.IsText)
    {rows : List Row} (h : TableOf Row.Converts rows) :
    Succeeds (aggregation.apply rows) fun summaries => ∀ row ∈ summaries, row.Converts := by
  obtain ⟨column, hColumn⟩ := hName
  unfold apply toAggregation?
  rw [hColumn]
  exact Aggregation.succeeds_apply _ h

end AggregationConfig

namespace PivotConfig

theorem exists_toPivot? {pivot : PivotConfig}
    (hNames : ∀ name ∈ pivot.rows ++ pivot.values, name.IsText) :
    ∃ found, pivot.toPivot? = some found := by
  have hTexts : ∀ {names : List Cell}, (∀ name ∈ names, name.IsText) →
      ∃ texts, names.mapM Cell.text? = some texts := by
    intro names h
    induction names with
    | nil => exact ⟨[], rfl⟩
    | cons name names ih =>
        obtain ⟨⟨text, rfl⟩, hRest⟩ := List.forall_mem_cons.1 h
        obtain ⟨texts, hTexts⟩ := ih hRest
        exact ⟨text :: texts, by rw [List.mapM_cons, hTexts]; rfl⟩
  obtain ⟨hRows, hValues⟩ := List.forall_mem_append.1 hNames
  obtain ⟨rows, hRows⟩ := hTexts hRows
  obtain ⟨values, hValues⟩ := hTexts hValues
  unfold toPivot?
  rw [hRows, hValues]
  exact ⟨_, rfl⟩

theorem hasValue_apply {pivot : PivotConfig}
    (hNames : ∀ name ∈ pivot.rows ++ pivot.values, name.IsText) {rows : List Row}
    (h : ∀ row ∈ rows, row.Converts) : HasValue (pivot.apply rows) := by
  obtain ⟨found, hFound⟩ := exists_toPivot? hNames
  unfold apply
  rw [hFound]
  split
  · exact found.hasValue_apply h
  · exact .ok trivial

end PivotConfig

/-! ## Profiles -/

/-- The text of a cell holds no surrogate. -/
def Cell.IsEncodable (cell : Cell) : Prop :=
  ∀ text, cell.toText = .ok text → Text.isEncodable text.toList

/-- Of the plain cells, only texts can hold surrogates. -/
theorem Cell.IsPlain.isEncodable_iff {cell : Cell} (h : cell.IsPlain) :
    cell.IsEncodable ↔ ∀ s, cell = .text s → Text.isEncodable s.toList := by
  constructor
  · rintro hEncodable s rfl
    exact hEncodable s rfl
  · intro hTexts text hText
    by_cases hOther : ∃ s, cell = .text s
    · obtain ⟨s, rfl⟩ := hOther
      cases hText
      exact hTexts _ rfl
    · obtain ⟨text', hText', hSubset⟩ := h.toText_subset fun s hs => hOther ⟨s, hs⟩
      cases hText.symm.trans hText'
      exact isEncodable_of_subset hSubset

theorem hasValue_checkEncodable_iff {s : String} :
    HasValue (checkEncodable s) ↔ Text.isEncodable s.toList := by
  rw [← encodingError?_eq_none_iff]
  unfold checkEncodable
  cases encodingError? s.toList with
  | none => exact iff_of_true (.ok trivial) rfl
  | some message =>
      refine iff_of_false ?_ (by simp)
      rintro ⟨_, ⟨⟩, -⟩

theorem Cell.Converts.hasValue_givesBoolean {cell : Cell} (h : cell.Converts) :
    HasValue cell.givesBoolean := by
  unfold Cell.givesBoolean
  split
  · exact .ok trivial
  · exact h.1.bind fun _ _ => .ok trivial

theorem hasValue_inferType {values : List Cell} (h : ∀ cell ∈ values, cell.Converts) :
    HasValue (inferType values) := by
  have hSample : ∀ cell ∈ values.take sampleSize, cell.Converts :=
    fun cell hCell => h cell (List.mem_of_mem_take hCell)
  have hNumbers : HasValue ((values.take sampleSize).allM Cell.givesFiniteNumber) :=
    hasValue_allM fun cell hCell => (hSample cell hCell).2.bind fun _ _ => .ok trivial
  have hBooleans : HasValue ((values.take sampleSize).allM Cell.givesBoolean) :=
    hasValue_allM fun cell hCell => (hSample cell hCell).hasValue_givesBoolean
  unfold inferType
  split
  · exact .ok trivial
  · refine hNumbers.bind fun number _ => ?_
    split
    · exact .ok trivial
    · refine hBooleans.bind fun boolean _ => ?_
      split
      · exact .ok trivial
      · exact .ok trivial

namespace Profile

theorem hasValue_extremes (type : ColumnType) {values : List Cell} (texts : List String)
    (h : ∀ cell ∈ values, cell.Converts) : HasValue (extremes type values texts) := by
  cases type with
  | number =>
      have hNumbers : HasValue (values.mapM Cell.toNumber) :=
        hasValue_mapM fun cell hCell => (h cell hCell).2
      exact hNumbers.bind fun _ _ => .ok trivial
  | boolean => exact .ok trivial
  | date => exact .ok trivial
  | string => exact .ok trivial
  | empty => exact .ok trivial

theorem hasValue_columnTexts {rows : List Row} (h : ∀ row ∈ rows, row.Converts)
    (column : String) :
    HasValue (((rows.map (·.get column)).filter (!·.isEmpty)).mapM Cell.toText) := by
  refine hasValue_mapM fun cell hCell => ?_
  obtain ⟨row, hRow, rfl⟩ := List.mem_map.1 (List.mem_filter.1 hCell).1
  exact (h row hRow column).1

theorem hasValue_ofColumn {rows : List Row} (h : ∀ row ∈ rows, row.Converts) (column : String) :
    HasValue (ofColumn rows column) := by
  have hValues : ∀ cell ∈ (rows.map (·.get column)).filter (!·.isEmpty), cell.Converts := by
    intro cell hCell
    obtain ⟨row, hRow, rfl⟩ := List.mem_map.1 (List.mem_filter.1 hCell).1
    exact h row hRow column
  refine (hasValue_columnTexts h column).bind fun texts _ =>
    (hasValue_inferType hValues).bind fun type _ => ?_
  exact (hasValue_extremes type texts hValues).bind fun _ _ => .ok trivial

/-- Columns with profiles are tried as columns of numbers first, so their first values give some. -/
theorem hasValue_toNumber_of_ofColumns {rows : List Row} {columns : List String}
    (h : HasValue (ofColumns rows columns)) {column : String} (hColumn : column ∈ columns)
    {cell : Cell} (hFirst : ((rows.map (·.get column)).filter (!·.isEmpty)).head? = some cell) :
    HasValue cell.toNumber := by
  obtain ⟨profile, hProfile, -⟩ := hasValue_mapM_iff.1 h column hColumn
  obtain ⟨_, _, hProfile⟩ := bind_eq_ok_iff.1 hProfile
  obtain ⟨_, _, hProfile⟩ := bind_eq_ok_iff.1 hProfile
  obtain ⟨type, hType, _⟩ := bind_eq_ok_iff.1 hProfile
  obtain ⟨values, hValues⟩ := List.head?_eq_some_iff.1 hFirst
  rw [hValues] at hType
  obtain ⟨_, hNumbers, _⟩ := bind_eq_ok_iff.1 hType
  obtain ⟨_, hCell, _⟩ := bind_eq_ok_iff.1 hNumbers
  obtain ⟨x, hx, _⟩ := bind_eq_ok_iff.1 hCell
  exact ⟨x, hx, trivial⟩

/-- The texts of a column are encoded if and only if no cell has a text with a surrogate. -/
theorem hasValue_encodeTexts_iff {rows : List Row} (h : ∀ row ∈ rows, row.Converts)
    (column : String) :
    HasValue (encodeTexts rows column) ↔ ∀ row ∈ rows, (row.get column).IsEncodable := by
  obtain ⟨texts, hTexts, -⟩ := hasValue_columnTexts h column
  have hChecks : HasValue (encodeTexts rows column) ↔
      ∀ text ∈ texts, Text.isEncodable text.toList := by
    unfold encodeTexts
    rw [hTexts]
    exact hasValue_forM_iff.trans (forall₂_congr fun _ _ => hasValue_checkEncodable_iff)
  rw [hChecks]
  constructor
  · intro hAll row hRow text hText
    by_cases hEmpty : (row.get column).isEmpty
    · rw [Cell.toText_eq_empty_iff.2 hEmpty] at hText
      cases hText
      rfl
    · refine hAll text ((mem_of_mapM hTexts).2 ⟨row.get column, ?_, hText⟩)
      exact List.mem_filter.2 ⟨List.mem_map_of_mem hRow, by simpa using hEmpty⟩
  · intro hAll text hText
    obtain ⟨cell, hCell, hText⟩ := exists_of_mem_mapM hTexts text hText
    obtain ⟨row, hRow, rfl⟩ := List.mem_map.1 (List.mem_filter.1 hCell).1
    exact hAll row hRow text hText

/-- Rows that convert have profiles of the columns whose texts can be encoded. -/
theorem hasValue_ofColumns_iff {rows : List Row} (h : ∀ row ∈ rows, row.Converts)
    (columns : List String) :
    HasValue (ofColumns rows columns) ↔
      ∀ column ∈ columns, ∀ row ∈ rows, (row.get column).IsEncodable := by
  have hEach (column : String) : HasValue (ofEncoded rows column) ↔
      ∀ row ∈ rows, (row.get column).IsEncodable := by
    rw [← hasValue_encodeTexts_iff h column]
    constructor
    · rintro ⟨profile, hProfile, -⟩
      obtain ⟨encoded, hEncoded, -⟩ := bind_eq_ok_iff.1 hProfile
      exact ⟨encoded, hEncoded, trivial⟩
    · intro hEncoded
      exact hEncoded.bind fun _ _ => hasValue_ofColumn h column
  rw [ofColumns, hasValue_mapM_iff]
  exact forall₂_congr fun column _ => hEach column

/-- Rows that convert lack profiles for one reason only. -/
theorem exists_notEncodable_of_ofColumns {rows : List Row} (h : ∀ row ∈ rows, row.Converts)
    {columns : List String} {cause : Fault} (hError : ofColumns rows columns = .error cause) :
    ∃ message, cause = .notEncodable message := by
  obtain ⟨column, -, hColumn⟩ := exists_error_of_mapM hError
  cases hEncoded : encodeTexts rows column with
  | ok encoded =>
      rw [ofEncoded, hEncoded] at hColumn
      obtain ⟨profile, hProfile, -⟩ := hasValue_ofColumn h column
      cases hProfile.symm.trans hColumn
  | error failure =>
      rw [ofEncoded, hEncoded] at hColumn
      cases hColumn
      obtain ⟨texts, hTexts, -⟩ := hasValue_columnTexts h column
      rw [encodeTexts, hTexts] at hEncoded
      obtain ⟨text, -, hText⟩ := exists_error_of_forM hEncoded
      unfold checkEncodable at hText
      split at hText
      · cases hText
      · cases hText
        exact ⟨_, rfl⟩

end Profile

end TableFlow
