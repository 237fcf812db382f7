import TableFlow.Proofs.Configuration.RoundTrip
import TableFlow.Proofs.Pipeline.Described
import TableFlow.Proofs.Pipeline.Edits
import TableFlow.Proofs.Stage.Success

/-!
# Pipelines that are made again

A clone of a pipeline is made from the record of its configuration, and then loads the source of the
pipeline. Whatever edits have led to a pipeline, the record is accepted: every change keeps a
configuration well-formed, and computing no rows fails for no configuration whose formulas are
texts and not too many. So the clone is configured as the pipeline is.

That it also shows the same takes a source that can be profiled. Loading stores a source before it
profiles it. If this fails, the source stays beside the old profiles, computing rows may still
succeed, but no other pipeline can load the source.

## Main results

* `Pipeline.Reachable.wellFormed` and `Pipeline.Reachable.profiledIfPossible`: what all edits
  keep.
* `Pipeline.clone_agrees`: the clone has the same configuration, and is the same pipeline after
  loading the source if and only if the source can be profiled.
-/

namespace TableFlow

namespace Pipeline

/-- The pipelines that edits lead to from the empty one, however each edit ends. -/
inductive Reachable : Pipeline → Prop
  | empty : Reachable empty
  | edit {p : Pipeline} (h : Reachable p) (e : Edit) : Reachable (p.edit e).1

variable {p : Pipeline}

/-! ## What all edits keep -/

theorem wellFormed_stored (h : p.config.WellFormed) (e : Edit) :
    (p.stored e).config.WellFormed := by
  cases e with
  | load rows columns =>
      simp only [stored]
      split <;> exact h
  | change c =>
      simp only [stored]
      split
      · next config hChange => exact h.change hChange
      · exact h
  | recompute => exact h

theorem Reachable.after (h : p.Reachable) (edits : List Edit) : (p.after edits).Reachable := by
  induction edits generalizing p with
  | nil => exact h
  | cons e edits ih => exact ih (h.edit e)

theorem Reachable.wellFormed (h : p.Reachable) : p.config.WellFormed := by
  induction h with
  | empty => exact Configuration.wellFormed_empty
  | @edit p h e ih =>
      obtain ⟨transformed, hEdit⟩ := exists_edit_eq p e
      rw [hEdit]
      exact wellFormed_stored ih e

/-- If the source of a pipeline can be profiled at all, the profiles are those of the source. -/
def ProfiledIfPossible (p : Pipeline) : Prop :=
  ∀ profiles, Profile.ofColumns p.rows p.sourceColumns = .ok profiles → p.profiles = profiles

theorem profiledIfPossible_stored (h : p.ProfiledIfPossible) (e : Edit) :
    (p.stored e).ProfiledIfPossible := by
  cases e with
  | load rows columns =>
      simp only [stored]
      split
      · next profiles hProfiles =>
        intro profiles' hProfiles'
        exact Except.ok.inj (hProfiles.symm.trans hProfiles')
      · next cause hFailed =>
        intro profiles hProfiles
        rw [hFailed] at hProfiles
        cases hProfiles
  | change c =>
      simp only [stored]
      split <;> exact h
  | recompute => exact h

theorem Reachable.profiledIfPossible (h : p.Reachable) : p.ProfiledIfPossible := by
  induction h with
  | empty =>
      intro profiles hProfiles
      cases hProfiles
      rfl
  | @edit p h e ih =>
      obtain ⟨transformed, hEdit⟩ := exists_edit_eq p e
      rw [hEdit]
      exact profiledIfPossible_stored ih e

/-! ## Making a pipeline again -/

theorem recompute_of_run {transformed : List Row}
    (h : p.config.run p.sourceColumns p.rows = .ok transformed) :
    p.recompute = ({ p with transformed }, none) := by
  simp only [recompute, h]

/-- Computing rows again after a run that ends in success changes nothing. -/
theorem recompute_after {edits : List Edit} (hNonempty : edits ≠ [])
    (hSuccess : p.EndsInSuccess edits) : (p.after edits).recompute = (p.after edits, none) := by
  refine recompute_of_run ?_
  rw [Configuration.run_eq_view]
  exact view_after hNonempty hSuccess

/-- The record of a well-formed configuration comes to a pipeline with this configuration. -/
theorem ofRecord_encode {config : Configuration} (hConfig : config.WellFormed) :
    ofRecord config.encode = (ofConfiguration config, config.fault?.map .fault) := by
  rw [ofRecord_eq, Configuration.ofRecord_encode hConfig]

/-- A source that cannot be profiled is not loaded. -/
theorem load_of_error {rows : List Row} {columns : List String} {cause : Fault}
    (h : Profile.ofColumns rows columns = .error cause) :
    (p.load rows (some columns)).2 = some (.fault cause) := by
  simp only [load, Option.getD_some, h]

/-- A pipeline with the configuration of another one becomes that other one when it loads its
source, exactly if the source can be profiled. -/
theorem load_eq_iff {clone : Pipeline} (hConfig : clone.config = p.config)
    (hProfiled : p.ProfiledIfPossible)
    (hRun : p.config.run p.sourceColumns p.rows = .ok p.transformed) :
    clone.load p.rows (some p.sourceColumns) = (p, none) ↔
      HasValue (Profile.ofColumns p.rows p.sourceColumns) := by
  cases hProfiles : Profile.ofColumns p.rows p.sourceColumns with
  | error cause =>
      constructor
      · intro hSame
        have hFailed := load_of_error (p := clone) hProfiles
        rw [hSame] at hFailed
        cases hFailed
      · rintro ⟨profiles, hNone, -⟩
        cases hNone
  | ok profiles =>
      refine iff_of_true ?_ (.ok trivial)
      have hLoad : clone.load p.rows (some p.sourceColumns) =
          recompute { p with transformed := clone.transformed } := by
        simp only [load, Option.getD_some, hProfiles, hConfig, ← hProfiled profiles hProfiles]
      rw [hLoad]
      exact recompute_of_run (p := { p with transformed := clone.transformed }) hRun

/-- **A clone agrees with the pipeline it is made from.** Take any pipeline that edits lead to,
whose formulas are texts. The record of its configuration makes a pipeline with the same
configuration, and so with the same record; this fails exactly if they are too many. If the rows
that the pipeline shows come from a computation that succeeded, it does not fail, and the clone
becomes the same pipeline when it loads the source, with the same rows, columns and profiles,
exactly if the source can be profiled. -/
theorem clone_agrees (hReachable : p.Reachable)
    (hFormulas : p.config.HasTextFormulas) :
    ∃ clone failure, ofRecord p.config.encode = (clone, failure) ∧ clone.config = p.config ∧
      clone.config.encode = p.config.encode ∧ (failure = none ↔ p.config.Fits) ∧
      ∀ before : Pipeline, before.recompute = (p, none) → failure = none ∧
        (clone.load p.rows (some p.sourceColumns) = (p, none) ↔
          HasValue (Profile.ofColumns p.rows p.sourceColumns)) := by
  have hFailure : p.config.fault?.map PipelineError.fault = none ↔ p.config.Fits := by
    rw [Option.map_eq_none_iff, Configuration.fault?_eq_none_iff]
    exact and_iff_left hFormulas
  refine ⟨_, _, ofRecord_encode hReachable.wellFormed, rfl, rfl, hFailure, fun before hBefore => ?_⟩
  have hView := view_of_edit (e := .recompute) hBefore
  refine ⟨hFailure.2 (Configuration.view_eq_ok_iff.1 hView).1, ?_⟩
  refine load_eq_iff rfl hReachable.profiledIfPossible ?_
  rw [Configuration.run_eq_view]
  exact hView

/-- Edits of all stages; a filter is updated, and a second formula of one name is refused. -/
def editsOfStages : List Edit := [
  .load [Row.empty.set "x" (.int 2), Row.empty.set "x" (.text "3")] none,
  .change (.addFilter ⟨.text "x", .text "between", "1", none⟩),
  .change (.updateFilter 0 [("value2", .int 5)]),
  .change (.setAggregation (some ⟨.text "x", .median⟩)),
  .change (.setPivot (some ⟨[.text "x"], [], [.text "_value"], .greatest⟩)),
  .change (.addFormula "n" (.text "ROW()")),
  .change (.addFormula "n" (.text "x")),
  .change (.toggleSort "x")]

theorem clone_agrees_editsOfStages :
    (empty.after editsOfStages).transformed.length = 2 ∧
      ∃ clone, ofRecord (empty.after editsOfStages).config.encode = (clone, none) ∧
        clone.load (empty.after editsOfStages).rows
            (some (empty.after editsOfStages).sourceColumns) =
          (empty.after editsOfStages, none) := by
  have hRecompute : (empty.after editsOfStages).recompute = (empty.after editsOfStages, none) :=
    recompute_after (List.cons_ne_nil _ _) (by decide +kernel)
  have hFormulas : (empty.after editsOfStages).config.HasTextFormulas := by decide +kernel
  obtain ⟨clone, failure, hClone, -, -, -, hAgrees⟩ :=
    clone_agrees (Reachable.empty.after editsOfStages) hFormulas
  obtain ⟨hMade, hLoad⟩ := hAgrees _ hRecompute
  rw [hMade] at hClone
  exact ⟨by decide +kernel, clone, hClone, hLoad.2 (by decide +kernel)⟩

/-- A source that cannot be profiled is stored and, without stages, shown when rows are computed
again. -/
theorem reachable_unprofiled (h : p.Reachable) (hConfig : p.config = .empty) {rows : List Row}
    {columns : List String} {cause : Fault}
    (hError : Profile.ofColumns rows columns = .error cause) :
    Reachable { p with rows, sourceColumns := columns, transformed := rows } ∧
      recompute { p with rows, sourceColumns := columns, transformed := rows } =
        ({ p with rows, sourceColumns := columns, transformed := rows }, none) := by
  have hLoad : (p.edit (.load rows (some columns))).1 =
      { p with rows, sourceColumns := columns } := by
    simp only [edit, load, Option.getD_some, hError]
  have hRun : p.config.run columns rows = .ok rows := by
    rw [hConfig]
    rfl
  have hShown : ∀ transformed, recompute { p with rows, sourceColumns := columns, transformed } =
      ({ p with rows, sourceColumns := columns, transformed := rows }, none) :=
    fun transformed => recompute_of_run hRun
  refine ⟨?_, hShown rows⟩
  have hComputed := (h.edit (.load rows (some columns))).edit .recompute
  rwa [hLoad, edit, hShown p.transformed] at hComputed

/-- A whole number that is beyond the binary64 numbers. -/
def unprofiled : List Row := [Row.empty.set "a" (.int (10 ^ 400))]

/-- A clone does not always agree with the pipeline it is made from, even if the last computation
of rows succeeded. -/
theorem exists_clone_that_differs :
    ¬ ∀ p before : Pipeline, p.Reachable →
      (∀ column ∈ p.config.formulas, ∃ text, column.formula = .text text) →
      before.recompute = (p, none) →
        ∃ clone, ofRecord p.config.encode = (clone, none) ∧
          ∃ q, clone.load p.rows (some p.sourceColumns) = (q, none) ∧
            q.transformed = p.transformed ∧ q.columns = p.columns ∧ q.profiles = p.profiles := by
  intro h
  obtain ⟨cause, hError⟩ : ∃ cause, Profile.ofColumns unprofiled ["a"] = .error cause := by
    have hNumber : Binary64.ofInt? (10 ^ 400) = none := by decide +kernel
    cases hProfiles : Profile.ofColumns unprofiled ["a"] with
    | error cause => exact ⟨cause, rfl⟩
    | ok profiles =>
        have hCell : HasValue (Cell.int (10 ^ 400)).toNumber :=
          @Profile.hasValue_toNumber_of_ofColumns unprofiled ["a"] ⟨profiles, hProfiles, trivial⟩
            "a" List.mem_cons_self _ rfl
        rw [Cell.toNumber_int, hNumber] at hCell
        obtain ⟨x, hx, -⟩ := hCell
        cases hx
  obtain ⟨hReachable, hRecompute⟩ := reachable_unprofiled Reachable.empty rfl hError
  obtain ⟨clone, -, q, hLoad, -⟩ := h _ _ hReachable nofun hRecompute
  have hFailed := load_of_error (p := clone) hError
  rw [hLoad] at hFailed
  cases hFailed

end Pipeline

end TableFlow
