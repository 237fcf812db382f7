import TableFlow.Configuration.Change

/-!
# Well-formed configurations

Every computed column has a name and a formula, names are keys, and no two columns share one.
Changes keep it so: a change either concerns other stages, or takes a column away, or is refused
when it would bring in a column without name or formula or a name that is taken.

## Main results

* `Configuration.WellFormed.change`: a change that is not refused keeps a configuration
  well-formed.
-/

namespace TableFlow

namespace Configuration

/-- The computed columns have distinct names and none of them lacks a part. A name or a formula that
is a text lacks nothing if the text is not empty. -/
structure WellFormed (config : Configuration) : Prop where
  named : ∀ column ∈ config.formulas, column.name.isFalse = false
  written : ∀ column ∈ config.formulas, column.formula.isFalse = false
  keyed : none ∉ config.formulaKeys
  distinct : config.formulaKeys.Nodup

theorem wellFormed_empty : empty.WellFormed where
  named := by simp [empty]
  written := by simp [empty]
  keyed := by simp [empty, formulaKeys]
  distinct := by simp [empty, formulaKeys]

/-- Only the computed columns matter. -/
theorem WellFormed.congr {config other : Configuration} (h : config.WellFormed)
    (hFormulas : other.formulas = config.formulas) : other.WellFormed where
  named := by rw [hFormulas]; exact h.named
  written := by rw [hFormulas]; exact h.written
  keyed := by rw [formulaKeys, hFormulas]; exact h.keyed
  distinct := by rw [formulaKeys, hFormulas]; exact h.distinct

theorem lacksPart_eq_false_iff (column : FormulaColumn) :
    lacksPart column = false ↔ column.name.isFalse = false ∧ column.formula.isFalse = false := by
  simp [lacksPart]

/-! ## Changes of other stages -/

theorem formulas_updateFilter {config changed : Configuration} {index : Int}
    {changes : List (String × Cell)} (h : config.updateFilter index changes = .ok changed) :
    changed.formulas = config.formulas := by
  unfold updateFilter at h
  cases hPosition : config.filterPosition index with
  | error refusal =>
      rw [hPosition] at h
      cases h
  | ok position =>
      rw [hPosition] at h
      simp only [bind, Except.bind] at h
      split at h
      · cases h
      · split at h
        · cases h
        · cases h
          rfl

theorem formulas_removeFilter {config changed : Configuration} {index : Int}
    (h : config.removeFilter index = .ok changed) : changed.formulas = config.formulas := by
  unfold removeFilter at h
  cases hPosition : config.filterPosition index with
  | error refusal =>
      rw [hPosition] at h
      cases h
  | ok position =>
      rw [hPosition] at h
      cases h
      rfl

/-! ## Changes of computed columns -/

variable {config changed : Configuration}

/-- A formula can be added exactly if the configuration with it is well-formed. -/
theorem addFormula_eq_ok_iff {name : String} {formula : Cell} (hConfig : config.WellFormed) :
    config.addFormula name formula = .ok changed ↔
      changed = { config with formulas := config.formulas ++ [⟨.text name, formula⟩] } ∧
        changed.WellFormed := by
  have hWellFormed : WellFormed { config with
      formulas := config.formulas ++ [⟨.text name, formula⟩] } ↔
        lacksPart ⟨.text name, formula⟩ = false ∧
          (Cell.text name).key? ∉ config.formulaKeys := by
    have hKeys : formulaKeys { config with
        formulas := config.formulas ++ [⟨.text name, formula⟩] } =
          config.formulaKeys ++ [(Cell.text name).key?] := List.map_append
    have hText : none ≠ (Cell.text name).key? := nofun
    constructor
    · intro h
      have hColumn : FormulaColumn.mk (.text name) formula ∈
          config.formulas ++ [⟨.text name, formula⟩] := by simp
      have hDistinct := hKeys ▸ h.distinct
      refine ⟨(lacksPart_eq_false_iff _).2 ⟨h.named _ hColumn, h.written _ hColumn⟩, ?_⟩
      intro hTaken
      exact (List.nodup_append.1 hDistinct).2.2 _ hTaken _ (List.mem_singleton_self _) rfl
    · rintro ⟨hParts, hFresh⟩
      obtain ⟨hName, hFormula⟩ := (lacksPart_eq_false_iff _).1 hParts
      refine
        { named := List.forall_mem_append.2 ⟨hConfig.named, List.forall_mem_singleton.2 hName⟩
          written :=
            List.forall_mem_append.2 ⟨hConfig.written, List.forall_mem_singleton.2 hFormula⟩
          keyed := ?_
          distinct := ?_ }
      · rw [hKeys, List.mem_append, List.mem_singleton, not_or]
        exact ⟨hConfig.keyed, hText⟩
      · rw [hKeys, List.nodup_append]
        refine ⟨hConfig.distinct, List.pairwise_singleton _ _, fun key hOld key' hNew hEq => ?_⟩
        rw [List.mem_singleton] at hNew
        exact hFresh (hNew ▸ hEq ▸ hOld)
  unfold addFormula
  constructor
  · intro h
    split at h
    · cases h
    · next hParts =>
      split at h
      · cases h
      · next hFresh =>
        cases h
        exact ⟨rfl, hWellFormed.2 ⟨Bool.not_eq_true _ |>.mp hParts, hFresh⟩⟩
  · rintro ⟨rfl, h⟩
    obtain ⟨hParts, hFresh⟩ := hWellFormed.1 h
    simp only [hParts, hFresh, if_false, Bool.false_eq_true]

theorem WellFormed.removeFormula (hConfig : config.WellFormed) (name : String) :
    WellFormed { config with
      formulas := config.formulas.filter (·.name.text? != some name) } where
  named := fun column h => hConfig.named column ((List.mem_filter.1 h).1)
  written := fun column h => hConfig.written column ((List.mem_filter.1 h).1)
  keyed := fun h => hConfig.keyed (List.filter_sublist.map _ |>.subset h)
  distinct := hConfig.distinct.sublist (List.filter_sublist.map _)

/-- Well-formedness is what a whole configuration is checked for. -/
theorem wellFormed_iff :
    config.WellFormed ↔ config.formulas.any lacksPart = false ∧ none ∉ config.formulaKeys ∧
      config.formulaKeys.Nodup := by
  simp only [List.any_eq_false, Bool.not_eq_true, lacksPart_eq_false_iff]
  constructor
  · intro h
    exact ⟨fun column hColumn => ⟨h.named column hColumn, h.written column hColumn⟩, h.keyed,
      h.distinct⟩
  · rintro ⟨hParts, hKeyed, hDistinct⟩
    exact
      { named := fun column hColumn => (hParts column hColumn).1
        written := fun column hColumn => (hParts column hColumn).2
        keyed := hKeyed
        distinct := hDistinct }

/-- A record is accepted exactly if it can be read and gives a well-formed configuration. -/
theorem ofRecord_eq_ok_iff {record : Cell} :
    ofRecord record = .ok config ↔ decode record = .ok config ∧ config.WellFormed := by
  unfold ofRecord
  cases decode record with
  | error e => simp
  | ok found =>
      rw [Except.ok.injEq]
      by_cases hWellFormed : found.WellFormed
      · obtain ⟨hParts, hKeyed, hDistinct⟩ := wellFormed_iff.1 hWellFormed
        simp only [hParts, hKeyed, hDistinct, not_true_eq_false, if_false, Bool.false_eq_true,
          Except.ok.injEq]
        exact ⟨fun hSame => ⟨hSame, hSame ▸ hWellFormed⟩, fun h => h.1⟩
      · refine iff_of_false (fun h => hWellFormed (wellFormed_iff.2 ?_)) ?_
        · grind
        · rintro ⟨rfl, h⟩
          exact hWellFormed h

theorem wellFormed_ofRecord {record : Cell} {config : Configuration}
    (h : ofRecord record = .ok config) : config.WellFormed :=
  (ofRecord_eq_ok_iff.1 h).2

/-- A change that is not refused keeps a configuration well-formed. -/
theorem WellFormed.change {config changed : Configuration} {c : Change}
    (hConfig : config.WellFormed) (h : config.change c = .ok changed) : changed.WellFormed := by
  cases c with
  | updateFilter index changes => exact hConfig.congr (formulas_updateFilter h)
  | removeFilter index => exact hConfig.congr (formulas_removeFilter h)
  | addFormula name formula => exact ((addFormula_eq_ok_iff hConfig).1 h).2
  | removeFormula name =>
      cases h
      exact hConfig.removeFormula name
  | replace record => exact wellFormed_ofRecord h
  | addFilter | clearFilters | toggleSort | setSort | clearSort | setAggregation | setPivot =>
      cases h
      exact hConfig.congr rfl

end Configuration

end TableFlow
