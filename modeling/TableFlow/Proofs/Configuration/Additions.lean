import TableFlow.Proofs.Configuration.RoundTrip

/-!
# Stages that are added to a configuration

Stages can be added to a configuration, or to the record that it is read from: filters, keys and
formulas come behind those that are there, an aggregation or a pivot takes the place of the one that
is there. Both ways lead to one configuration, whatever form the record has. Its fields may be
absent, a list may be given by an empty text or an empty record, and what is false counts as absent.

## Main results

* `Additions.decode_mergeInto`: the record with added stages is read as the configuration with them.
* `Additions.ofRecord_mergeInto`: it is accepted exactly if that configuration is well-formed.
-/

namespace TableFlow

open TableFlow.Configuration
  (elements decodeList decodeOptional mapM_encode exists_record_of_decode decode_record_eq_ok_iff)

/-! ## Fields of a record -/

/-- The record of which a field is a list with further elements at its end. -/
def extendField (name : String) (more : List Cell) (entries : List (String × Cell)) :
    List (String × Cell) :=
  let present := (elements ((entries.lookup name).getD (.list []))).toOption.getD []
  setEntry entries name (.list (present ++ more))

/-- The record of which a field is replaced, if there is something to put in its place. -/
def replaceField (name : String) (cell? : Option Cell) (entries : List (String × Cell)) :
    List (String × Cell) :=
  match cell? with
  | some cell => setEntry entries name cell
  | none => entries

section

variable {entries : List (String × Cell)} {name other : String}

theorem lookup_extendField_of_ne (more : List Cell) (h : other ≠ name) :
    (extendField name more entries).lookup other = entries.lookup other :=
  Row.lookup_setEntry_of_ne entries _ h

theorem lookup_replaceField_of_ne (cell? : Option Cell) (h : other ≠ name) :
    (replaceField name cell? entries).lookup other = entries.lookup other := by
  cases cell? with
  | none => rfl
  | some cell => exact Row.lookup_setEntry_of_ne entries cell h

variable {α : Type} {decode : Cell → Except ConfigError α} {encode : α → Cell}

theorem decodeList_extendField (h : ∀ x, decode (encode x) = .ok x) {xs : List α}
    (hEntries : decodeList decode (entries.lookup name) = .ok xs) (more : List α) :
    decodeList decode ((extendField name (more.map encode) entries).lookup name) =
      .ok (xs ++ more) := by
  obtain ⟨present, hPresent, hDecode⟩ := bind_eq_ok_iff.1 hEntries
  have hField : (extendField name (more.map encode) entries).lookup name =
      some (.list (present ++ more.map encode)) := by
    simp only [extendField, Row.lookup_setEntry_self, hPresent]
    rfl
  rw [hField]
  show (present ++ more.map encode).mapM decode = _
  rw [List.mapM_append, hDecode, mapM_encode h]
  rfl

theorem decodeOptional_replaceField (h : ∀ x, decode (encode x) = .ok x)
    (hTrue : ∀ x, (encode x).isFalse = false) {x? : Option α}
    (hEntries : decodeOptional decode (entries.lookup name) = .ok x?) (y? : Option α) :
    decodeOptional decode ((replaceField name (y?.map encode) entries).lookup name) =
      .ok (y?.or x?) := by
  cases y? with
  | none => exact hEntries
  | some y =>
      simp only [replaceField, Option.map_some, Row.lookup_setEntry_self, decodeOptional, hTrue, h]
      rfl

end

/-! ## Added stages -/

/-- Stages to add. -/
structure Additions where
  filters : List FilterConfig := []
  sort : List SortConfig := []
  aggregation : Option AggregationConfig := none
  pivot : Option PivotConfig := none
  formulas : List FormulaColumn := []

namespace Additions

/-- A configuration with the stages. -/
def addTo (added : Additions) (config : Configuration) : Configuration where
  filters := config.filters ++ added.filters
  sort := config.sort ++ added.sort
  aggregation := added.aggregation.or config.aggregation
  pivot := added.pivot.or config.pivot
  formulas := config.formulas ++ added.formulas

/-- The fields of a record with the stages. -/
def mergeFields (added : Additions) (entries : List (String × Cell)) : List (String × Cell) :=
  extendField "formulas" (added.formulas.map FormulaColumn.encode)
    (replaceField "pivot" (added.pivot.map PivotConfig.encode)
      (replaceField "aggregation" (added.aggregation.map AggregationConfig.encode)
        (extendField "sort" (added.sort.map SortConfig.encode)
          (extendField "filters" (added.filters.map FilterConfig.encode) entries))))

/-- A record with the stages. -/
def mergeInto (added : Additions) : Cell → Cell
  | .record entries => .record (added.mergeFields entries)
  | cell => cell

/-- A record with added stages is read as the configuration with them. -/
theorem decode_mergeInto (added : Additions) {record : Cell} {config : Configuration}
    (h : Configuration.decode record = .ok config) :
    Configuration.decode (added.mergeInto record) = .ok (added.addTo config) := by
  obtain ⟨entries, rfl⟩ := exists_record_of_decode h
  obtain ⟨hFilters, hSort, hAggregation, hPivot, hFormulas⟩ := decode_record_eq_ok_iff.1 h
  refine decode_record_eq_ok_iff.2 ⟨?filters, ?sort, ?aggregation, ?pivot, ?formulas⟩
  case filters =>
    simp (disch := decide) only [mergeFields, lookup_extendField_of_ne, lookup_replaceField_of_ne]
    exact decodeList_extendField FilterConfig.decode_encode hFilters added.filters
  case sort =>
    simp (disch := decide) only [mergeFields, lookup_extendField_of_ne, lookup_replaceField_of_ne]
    refine decodeList_extendField SortConfig.decode_encode ?_ added.sort
    simpa (disch := decide) only [lookup_extendField_of_ne] using hSort
  case aggregation =>
    simp (disch := decide) only [mergeFields, lookup_extendField_of_ne, lookup_replaceField_of_ne]
    refine decodeOptional_replaceField AggregationConfig.decode_encode (fun _ => rfl) ?_
      added.aggregation
    simpa (disch := decide) only [lookup_extendField_of_ne] using hAggregation
  case pivot =>
    simp (disch := decide) only [mergeFields, lookup_extendField_of_ne]
    refine decodeOptional_replaceField PivotConfig.decode_encode (fun _ => rfl) ?_ added.pivot
    simpa (disch := decide) only [lookup_extendField_of_ne, lookup_replaceField_of_ne] using hPivot
  case formulas =>
    refine decodeList_extendField FormulaColumn.decode_encode ?_ added.formulas
    simpa (disch := decide) only [lookup_extendField_of_ne, lookup_replaceField_of_ne] using
      hFormulas

/-- A record with added stages is accepted exactly if the configuration with them is well-formed. -/
theorem ofRecord_mergeInto (added : Additions) {record : Cell} {config merged : Configuration}
    (h : Configuration.ofRecord record = .ok config) :
    Configuration.ofRecord (added.mergeInto record) = .ok merged ↔
      merged = added.addTo config ∧ merged.WellFormed := by
  rw [Configuration.ofRecord_eq_ok_iff,
    added.decode_mergeInto (Configuration.ofRecord_eq_ok_iff.1 h).1, Except.ok.injEq, eq_comm]

end Additions

end TableFlow
