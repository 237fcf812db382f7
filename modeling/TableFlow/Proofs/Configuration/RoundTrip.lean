import TableFlow.Configuration.Encode
import TableFlow.Proofs.Pipeline.WellFormed
import TableFlow.Proofs.Success

/-!
# Configurations are recovered from their records

A configuration is stored as a record, part by part, and read back part by part. Reading is more
generous than writing: fields may be absent, values need not be texts, and what is false counts as
absent. For the records that are written this makes no difference, since each part has all of its
fields, the values are texts, and a record with fields is not false.

## Main results

* `Configuration.decode_record_eq_ok_iff`: a record is read field by field.
* `Configuration.decode_encode`: reading the record of a configuration gives the configuration.
* `Configuration.ofRecord_encode`: a well-formed configuration also passes the checks.
-/

namespace TableFlow

/-! ## The parts -/

namespace Configuration

/-- A choice that is written by its name is read back. -/
theorem choice_name {α : Type} {ofName? : String → Option α} {name : String} {value : α}
    (h : ofName? name = some value) (what : String) (names : List String) :
    choice ofName? what names (.text name) = .ok value := by
  simp only [choice, h]

/-- What is read back one by one is read back as a list. -/
theorem mapM_encode {α : Type} {decode : Cell → Except ConfigError α} {encode : α → Cell}
    (h : ∀ x, decode (encode x) = .ok x) (xs : List α) : (xs.map encode).mapM decode = .ok xs := by
  induction xs with
  | nil => rfl
  | cons x xs ih =>
      rw [List.map_cons, List.mapM_cons, h, ih]
      rfl

theorem decodeList_encode {α : Type} {decode : Cell → Except ConfigError α} {encode : α → Cell}
    (h : ∀ x, decode (encode x) = .ok x) (xs : List α) :
    decodeList decode (some (.list (xs.map encode))) = .ok xs :=
  mapM_encode h xs

theorem decodeOptional_encode {α : Type} {decode : Cell → Except ConfigError α} {encode : α → Cell}
    (h : ∀ x, decode (encode x) = .ok x) (hTrue : ∀ x, (encode x).isFalse = false) (x? : Option α) :
    decodeOptional decode (some (.ofOption (x?.map encode))) = .ok x? := by
  cases x? with
  | none => rfl
  | some x => simp [decodeOptional, Cell.ofOption, h, hTrue, Except.map]

end Configuration

open TableFlow.Configuration (choice_name)

theorem FilterConfig.decode_encode (f : FilterConfig) : FilterConfig.decode f.encode = .ok f := by
  obtain ⟨column, operator, value, value2⟩ := f
  cases value2 <;> rfl

theorem SortConfig.decode_encode (key : SortConfig) : SortConfig.decode key.encode = .ok key := by
  obtain ⟨column, direction⟩ := key
  cases direction <;> rfl

theorem AggregationConfig.decode_encode (aggregation : AggregationConfig) :
    AggregationConfig.decode aggregation.encode = .ok aggregation := by
  obtain ⟨column, operation⟩ := aggregation
  cases operation <;> rfl

theorem PivotConfig.decode_encode (layout : PivotConfig) :
    PivotConfig.decode layout.encode = .ok layout := by
  have hAggregation : Pivot.readAggregation (.text layout.aggregation.name) =
      .ok layout.aggregation :=
    choice_name layout.aggregation.ofName?_name _ _
  calc PivotConfig.decode layout.encode
      = (do
          let aggregation ← Pivot.readAggregation (.text layout.aggregation.name)
          .ok { layout with aggregation }) := rfl
    _ = .ok layout := by
      rw [hAggregation]
      rfl

theorem FormulaColumn.decode_encode (column : FormulaColumn) :
    FormulaColumn.decode column.encode = .ok column := rfl

/-! ## The whole -/

namespace Configuration

/-- A record is read as a configuration exactly if each of its fields is read as the part. -/
theorem decode_record_eq_ok_iff {entries : List (String × Cell)} {config : Configuration} :
    decode (.record entries) = .ok config ↔
      decodeList FilterConfig.decode (entries.lookup "filters") = .ok config.filters ∧
      decodeList SortConfig.decode (entries.lookup "sort") = .ok config.sort ∧
      decodeOptional AggregationConfig.decode (entries.lookup "aggregation") =
        .ok config.aggregation ∧
      decodeOptional PivotConfig.decode (entries.lookup "pivot") = .ok config.pivot ∧
      decodeList FormulaColumn.decode (entries.lookup "formulas") = .ok config.formulas := by
  have hDecode : decode (.record entries) = (do
      let filters ← decodeList FilterConfig.decode (entries.lookup "filters")
      let sort ← decodeList SortConfig.decode (entries.lookup "sort")
      let aggregation ← decodeOptional AggregationConfig.decode (entries.lookup "aggregation")
      let pivot ← decodeOptional PivotConfig.decode (entries.lookup "pivot")
      let formulas ← decodeList FormulaColumn.decode (entries.lookup "formulas")
      .ok { filters, sort, aggregation, pivot, formulas }) := rfl
  constructor
  · intro h
    rw [hDecode] at h
    obtain ⟨filters, hFilters, h⟩ := bind_eq_ok_iff.1 h
    obtain ⟨sort, hSort, h⟩ := bind_eq_ok_iff.1 h
    obtain ⟨aggregation, hAggregation, h⟩ := bind_eq_ok_iff.1 h
    obtain ⟨pivot, hPivot, h⟩ := bind_eq_ok_iff.1 h
    obtain ⟨formulas, hFormulas, h⟩ := bind_eq_ok_iff.1 h
    cases h
    exact ⟨hFilters, hSort, hAggregation, hPivot, hFormulas⟩
  · rintro ⟨hFilters, hSort, hAggregation, hPivot, hFormulas⟩
    rw [hDecode, hFilters, hSort, hAggregation, hPivot, hFormulas]
    rfl

/-- Nothing but a record is read as a configuration. -/
theorem exists_record_of_decode {cell : Cell} {config : Configuration}
    (h : decode cell = .ok config) : ∃ entries, cell = .record entries := by
  cases cell with
  | record entries => exact ⟨entries, rfl⟩
  | _ => cases h

/-- The record of a configuration gives the configuration, even where it would not pass the checks
of a change. -/
theorem decode_encode (config : Configuration) : decode config.encode = .ok config :=
  decode_record_eq_ok_iff.2
    ⟨decodeList_encode FilterConfig.decode_encode config.filters,
      decodeList_encode SortConfig.decode_encode config.sort,
      decodeOptional_encode AggregationConfig.decode_encode (fun _ => rfl) config.aggregation,
      decodeOptional_encode PivotConfig.decode_encode (fun _ => rfl) config.pivot,
      decodeList_encode FormulaColumn.decode_encode config.formulas⟩

/-- A well-formed configuration is accepted when it is read back. -/
theorem ofRecord_encode {config : Configuration} (h : config.WellFormed) :
    ofRecord config.encode = .ok config :=
  ofRecord_eq_ok_iff.2 ⟨config.decode_encode, h⟩

end Configuration

end TableFlow
