import TableFlow.Proofs.Configuration.RoundTrip
import TableFlow.Proofs.Formula.Parsing
import TableFlow.Proofs.Pipeline.Described
import TableFlow.Proofs.Pipeline.Edits
import TableFlow.Proofs.Stage.Success

/-!
# Failures of formulas are contained

Stages give rows for every plain table, whatever a pipeline is configured to do with it, as long as
names and formulas are texts. A formula that cannot be read, or has no value at a row, costs nothing
but the cell that it would have given: the cell is missing, and the other rows and columns are as
they were.

This rests on two facts. Each stage before the formulas succeeds on a plain table. And the formulas,
which may make cells that are not plain, such as whole numbers of any size, never fail on any rows.

Profiles are another matter. They are made of encoded texts, so a table with a text that cannot be
encoded is not loaded, plain as it may be.

## Main results

* `Formula.isCaught_of_read`: the errors of a text that is not a formula are the ones that the stage
  of formulas knows.
* `FormulaColumn.succeeds_apply`: a formula only fills its own column.
* `Pipeline.load_contained`: stages give rows, each formula only fills its own column, and loading
  succeeds if and only if the texts of the table can be encoded.
-/

namespace TableFlow

/-! ## Texts that are not formulas -/

namespace Formula

/-- The errors that the stage of formulas takes for a formula that cannot be read. -/
def SyntaxError.IsCaught : SyntaxError → Prop
  | .lex _ => True
  | .parse err => err.IsMalformed ∨ err = .tooDeep

/-- Reading a text fails with no other errors, since each literal of a text has a value. -/
theorem isCaught_of_read {calls : Nat} {text : String} {err : SyntaxError}
    (h : read calls text = .error err) : err.IsCaught := by
  unfold read at h
  split at h
  · cases h
    trivial
  · next tokens hTokens =>
    split at h
    · next parseError hParse =>
      cases h
      by_cases hDepth : parseError = .tooDeep
      · exact .inr hDepth
      · refine .inl (isMalformed_of_parse ?_ hDepth hParse)
        exact fun t ht hLiteral => exists_value_of_tokenize hTokens ht hLiteral
    · cases h

end Formula

/-! ## One formula -/

namespace FormulaColumn

/-- The value of a text as a formula at the row of an index: none if the text cannot be read or has
no value there. -/
def valueAt? (calls : Nat) (text : String) (declared : List String) (rows : List Row)
    (index : Nat) : Option Cell :=
  match Formula.read calls text with
  | .error _ => none
  | .ok expr => (Formula.evaluateRows calls expr rows declared)[index]?.bind Except.toOption

/-- The rows with a column filled by a text, where a value that does not exist is missing. -/
structure Fills (name text : String) (declared : List String) (calls : Nat)
    (before after : List Row) : Prop where
  length : after.length = before.length
  row : ∀ (index : Nat) (row : Row), before[index]? = some row →
    after[index]? =
      some (row.set name ((valueAt? calls text declared before index).getD .missing))

variable (calls : Nat) (text : String) (declared : List String) (rows : List Row)

theorem length_cells : (cells calls text declared rows).length = rows.length := by
  unfold cells
  split
  · rw [List.length_map]
  · simp only [Formula.evaluateRows, List.length_map, List.length_zipIdx]

theorem getElem?_cells {index : Nat} (h : index < rows.length) :
    (cells calls text declared rows)[index]? =
      some ((valueAt? calls text declared rows index).getD .missing) := by
  cases hRead : Formula.read calls text with
  | error err =>
      simp only [cells, valueAt?, hRead]
      rw [List.getElem?_map, List.getElem?_eq_getElem h]
      rfl
  | ok expr =>
      have hLength : index < (Formula.evaluateRows calls expr rows declared).length := by
        simpa only [Formula.evaluateRows, List.length_map, List.length_zipIdx] using h
      simp only [cells, valueAt?, hRead]
      rw [List.getElem?_map, List.getElem?_eq_getElem hLength]
      cases (Formula.evaluateRows calls expr rows declared)[index] with
      | error err => rfl
      | ok cell => rfl

theorem fills_filled (name : String) :
    Fills name text declared calls rows (filled name text declared calls rows) where
  length := by rw [filled, List.length_zipWith, length_cells, Nat.min_self]
  row index row hRow := by
    have hIndex : index < rows.length := (List.getElem?_eq_some_iff.1 hRow).1
    rw [filled, List.getElem?_zipWith, hRow, getElem?_cells calls text declared rows hIndex]

/-- A formula only fills its own column, and fails on no rows. -/
theorem succeeds_apply (name : String) :
    Succeeds ((ofText name text).apply declared calls rows)
      (Fills name text declared calls rows) :=
  .ok (fills_filled calls text declared rows name)

end FormulaColumn

/-! ## The whole configuration -/

namespace Configuration

/-- The names of columns are texts wherever a stage looks a column up or fills one. -/
structure HasTextNames (config : Configuration) : Prop where
  filters : ∀ filter ∈ config.filters, filter.column.IsText
  sort : ∀ key ∈ config.sort, key.column.IsText
  aggregation : ∀ aggregation ∈ config.aggregation, aggregation.column.IsText
  pivot : ∀ layout ∈ config.pivot, ∀ name ∈ layout.rows ++ layout.values, name.IsText
  formulas : ∀ column ∈ config.formulas, column.name.IsText

theorem succeeds_unlessEmpty {α : Type} {step : List α → List Row → Except Fault (List Row)}
    {xs : List α} {rows : List Row} {good : List Row → Prop} (hNothing : good rows)
    (hStep : Succeeds (step xs rows) good) : Succeeds (unlessEmpty step xs rows) good := by
  cases xs with
  | nil => exact .ok hNothing
  | cons x xs => exact hStep

theorem succeeds_optionally {α : Type} {step : α → List Row → Except Fault (List Row)}
    {x? : Option α} {rows : List Row} {good : List Row → Prop} (hNothing : good rows)
    (hStep : ∀ x ∈ x?, Succeeds (step x rows) good) : Succeeds (optionally step x? rows) good := by
  cases x? with
  | none => exact .ok hNothing
  | some x => exact hStep x rfl

/-- The steps before the formulas succeed on a plain table. -/
theorem hasValue_summarize {config : Configuration} (hNames : config.HasTextNames)
    {rows : List Row} (h : PlainTable rows) : HasValue (config.summarize rows) := by
  have hFiltered : Succeeds (unlessEmpty FilterConfig.apply config.filters rows) PlainTable :=
    succeeds_unlessEmpty h
      ((FilterConfig.succeeds_apply hNames.filters h.converts.row).mono fun _ => h.sublist)
  have hSorted : ∀ filtered, PlainTable filtered →
      Succeeds (unlessEmpty SortConfig.sort config.sort filtered) PlainTable :=
    fun filtered hPlain => succeeds_unlessEmpty hPlain
      ((SortConfig.succeeds_sort hNames.sort hPlain.row).mono fun _ => hPlain.perm)
  refine hFiltered.bind fun filtered hPlain => (hSorted filtered hPlain).bind ?_
  intro sorted hTable
  have hAggregated : Succeeds (optionally AggregationConfig.apply config.aggregation sorted)
      fun aggregated => ∀ row ∈ aggregated, row.Converts :=
    succeeds_optionally hTable.converts.row fun aggregation hConfigured =>
      AggregationConfig.succeeds_apply (hNames.aggregation _ hConfigured) hTable.converts
  refine hAggregated.bind fun aggregated hConverts => ?_
  refine succeeds_optionally trivial fun layout hActive => ?_
  have hConfigured : layout ∈ config.pivot := (Option.filter_eq_some_iff.1 hActive).1
  exact PivotConfig.hasValue_apply (hNames.pivot _ hConfigured) hConverts

/-- Rows become others by formulas that are texts, one after the other: each one fills its own
column, by the calls that the formulas behind it leave. -/
inductive FillsEach (declared : List String) : List FormulaColumn → List Row → List Row → Prop
  | nil (rows : List Row) : FillsEach declared [] rows rows
  | cons {name text : String} {columns : List FormulaColumn} {before filled after : List Row}
      (hFirst : FormulaColumn.Fills name text declared (callsBefore columns.length) before filled)
      (hRest : FillsEach declared columns filled after) :
      FillsEach declared (.ofText name text :: columns) before after

/-- Formulas that are texts and fill columns with names succeed on all rows. -/
theorem succeeds_compute {columns : List FormulaColumn}
    (hNames : ∀ column ∈ columns, column.name.IsText)
    (hFormulas : ∀ column ∈ columns, column.formula.IsText) (declared : List String)
    (rows : List Row) :
    Succeeds (compute declared columns rows) (FillsEach declared columns rows) := by
  induction columns generalizing rows with
  | nil => exact .ok (.nil rows)
  | cons column columns ih =>
      obtain ⟨name, formula⟩ := column
      obtain ⟨⟨name, rfl⟩, hOthers⟩ := List.forall_mem_cons.1 hNames
      obtain ⟨⟨text, rfl⟩, hBehind⟩ := List.forall_mem_cons.1 hFormulas
      have hFirst := FormulaColumn.succeeds_apply (callsBefore columns.length) text declared rows
        name
      exact hFirst.bind fun filled hFilled =>
        (ih hOthers hBehind filled).mono fun _ hRest => .cons hFilled hRest

end Configuration

/-! ## Loading -/

namespace Pipeline

/-- A configuration is accepted only if its formulas are not too many. -/
theorem fits_of_accepted {before p : Pipeline} {record : Cell}
    (h : before.change (.replace record) = (p, none)) : p.config.Fits :=
  (Configuration.view_eq_ok_iff.1 (view_of_edit (e := .change (.replace record)) h)).1

/-- **Loading contains the failures of formulas.** Take a configuration that a pipeline accepts,
with texts as the names of columns and as formulas, and a plain table. The stages give rows. Each
formula gives every row one cell, missing where the text cannot be read or has no value, and leaves
all else; and the reasons for which a text cannot be read are the ones that are caught. Loading ends
in these rows if and only if the texts of the declared columns can be encoded, and in no other
error. -/
theorem load_contained {before p : Pipeline} {record : Cell}
    (hAccepted : before.change (.replace record) = (p, none)) (hNames : p.config.HasTextNames)
    (hFormulas : p.config.HasTextFormulas) {rows : List Row} (hRows : PlainTable rows)
    (columns : Option (List String)) :
    let declared := columns.getD (columnsOf rows)
    ∃ base shown, p.config.summarize rows = .ok base ∧
      Configuration.FillsEach declared p.config.formulas base shown ∧
      p.config.run declared rows = .ok shown ∧
      ((p.load rows columns).2 = none → (p.load rows columns).1.transformed = shown) ∧
      ((p.load rows columns).2 = none ↔ ∀ column ∈ declared, ∀ row ∈ rows, ∀ s,
        row.get column = .text s → Text.isEncodable s.toList) ∧
      (∀ error, (p.load rows columns).2 = some error →
        ∃ message, error = .fault (.notEncodable message)) ∧
      ∀ calls text err, Formula.read calls text = .error err → err.IsCaught := by
  intro declared
  have hFits := fits_of_accepted hAccepted
  obtain ⟨base, hBase, -⟩ := Configuration.hasValue_summarize hNames hRows
  obtain ⟨shown, hShown, hFills⟩ :=
    Configuration.succeeds_compute hNames.formulas hFormulas declared base
  have hRun : p.config.run declared rows = .ok shown := by
    rw [Configuration.run_eq_view, Configuration.view_eq_ok_iff, hBase]
    exact ⟨hFits, hShown⟩
  have hEncodable : HasValue (Profile.ofColumns rows declared) ↔ ∀ column ∈ declared, ∀ row ∈ rows,
      ∀ s, row.get column = .text s → Text.isEncodable s.toList := by
    rw [Profile.hasValue_ofColumns_iff hRows.converts.row]
    exact forall₂_congr fun column _ => forall₂_congr fun row hRow =>
      (hRows.row row hRow column).isEncodable_iff
  refine ⟨base, shown, hBase, hFills, hRun, ?_⟩
  rw [← hEncodable]
  cases hProfiles : Profile.ofColumns rows declared with
  | ok profiles =>
      have hLoad : p.load rows columns =
          ({ p with rows, sourceColumns := declared, profiles, transformed := shown }, none) := by
        simp only [load, declared, hProfiles, recompute, hRun]
      rw [hLoad]
      exact ⟨fun _ => rfl, iff_of_true rfl (.ok trivial), nofun,
        fun _ _ _ => Formula.isCaught_of_read⟩
  | error cause =>
      obtain ⟨message, rfl⟩ :=
        Profile.exists_notEncodable_of_ofColumns hRows.converts.row hProfiles
      have hLoad : (p.load rows columns).2 = some (.fault (.notEncodable message)) := by
        simp only [load, declared, hProfiles]
      rw [hLoad]
      refine ⟨nofun, iff_of_false nofun ?_, ?_, fun _ _ _ => Formula.isCaught_of_read⟩
      · rintro ⟨profiles, hOk, -⟩
        cases hOk
      · rintro error ⟨⟩
        exact ⟨message, rfl⟩

/-- A configuration whose formulas all fail: they do not end, name no column, divide by zero. -/
def failing : Configuration :=
  { sort := [⟨.text "x", .ascending⟩]
    formulas := [.ofText "a" "1 +", .ofText "b" "unknown", .ofText "c" "x / 0"] }

def mixedRows : List Row := [Row.empty.set "x" (.int 2), Row.empty.set "x" (.text "1")]

/-- The record of a well-formed configuration is accepted, if its formulas are texts and not
too many. -/
theorem accepted_encode {config : Configuration} (hConfig : config.WellFormed) (hFits : config.Fits)
    (hFormulas : config.HasTextFormulas) :
    empty.change (.replace config.encode) = (ofConfiguration config, none) :=
  ofRecord_eq_none_iff.2 ⟨config, Configuration.ofRecord_encode hConfig, hFits, hFormulas, rfl⟩

theorem isPlain_mixedRows : PlainTable mixedRows := by
  have hNumber : (Cell.int 2).IsPlain := by decide +kernel
  have hText : (Cell.text "1").IsPlain := by decide +kernel
  refine ⟨?_, hNumber⟩
  intro row hRow
  simp only [mixedRows, List.mem_cons, List.not_mem_nil, or_false] at hRow
  rcases hRow with rfl | rfl
  · exact Row.isPlain_empty.set "x" hNumber
  · exact Row.isPlain_empty.set "x" hText

/-- It still takes a table, and its formulas give missing cells. -/
theorem load_contained_failing :
    ((ofConfiguration failing).load mixedRows none).2 = none ∧
      ∀ row ∈ ((ofConfiguration failing).load mixedRows none).1.transformed,
        ∀ name ∈ ["a", "b", "c"], (row.get name).isMissing := by
  have hWellFormed : failing.WellFormed :=
    Configuration.wellFormed_iff.2 ⟨by decide, by decide, by decide⟩
  have hAccepted := accepted_encode hWellFormed (by decide) (by decide)
  have hNames : failing.HasTextNames := ⟨by decide, by decide, by decide, by decide, by decide⟩
  obtain ⟨base, shown, -, -, -, -, hLoads, -⟩ :=
    load_contained hAccepted hNames (by decide) isPlain_mixedRows none
  have hTexts : ∀ column ∈ columnsOf mixedRows, ∀ row ∈ mixedRows,
      (row.get column).text?.all fun s => Text.isEncodable s.toList := by
    decide +kernel
  refine ⟨hLoads.2 fun column hColumn row hRow s hText => ?_, by decide +kernel⟩
  simpa only [hText, Cell.text?_text, Option.all_some] using hTexts column hColumn row hRow

/-- A row of one text, which is an unpaired surrogate. -/
def unencodable : List Row :=
  [Row.empty.set "a" (.text (String.ofList [Text.ofSurrogate 0xD800]))]

/-- Not every plain table is loaded, not even without any stage. -/
theorem exists_load_that_fails :
    ¬ ∀ (before p : Pipeline) (record : Cell), before.change (.replace record) = (p, none) →
      p.config.HasTextNames → p.config.HasTextFormulas →
        ∀ rows, PlainTable rows → ∀ columns, (p.load rows columns).2 = none := by
  intro h
  have hRows : PlainTable unencodable := by
    refine ⟨List.forall_mem_singleton.2 (Row.isPlain_empty.set "a" ?_), ?_⟩ <;> decide +kernel
  have hAccepted := accepted_encode Configuration.wellFormed_empty (by decide) (by decide)
  have hLoads := h _ _ _ hAccepted ⟨nofun, nofun, nofun, nofun, nofun⟩ (by decide) _ hRows none
  revert hLoads
  decide +kernel

end Pipeline

end TableFlow
