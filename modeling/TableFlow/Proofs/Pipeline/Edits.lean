import TableFlow.Proofs.Pipeline.View
import TableFlow.Proofs.Pipeline.WellFormed

/-!
# Edits of a pipeline

A pipeline is *consistent* if what it shows is what its source and its configuration give. An edit
first stores a new source or a new configuration (`Pipeline.stored`) and then computes the rows, so
there are three ways in which it can end:

* it is refused, and nothing was stored;
* it succeeds, and the pipeline is consistent;
* computing the profiles or the rows fails, and what was stored stays beside the old rows.

## Main results

* `Pipeline.consistent_of_settled_steps`: from the empty pipeline, edits that succeed or are
  refused lead through consistent pipelines only, and refused ones change nothing.
* `Pipeline.edit_failed`: what an edit that fails leaves behind, and when that is what was there
  before.
-/

namespace TableFlow

namespace Pipeline

/-- The rows that are shown are the view of the source under the configuration, the configuration
is well-formed, and the profiles are those of the source. -/
structure Consistent (p : Pipeline) : Prop where
  view : p.config.view p.sourceColumns p.rows = .ok p.transformed
  wellFormed : p.config.WellFormed
  profiles : Profile.ofColumns p.rows p.sourceColumns = .ok p.profiles

theorem consistent_empty : Consistent empty where
  view := rfl
  wellFormed := Configuration.wellFormed_empty
  profiles := rfl

/-- What an edit stores before rows are computed. The profiles of a new source are stored with it
if they can be computed; a change that is refused stores nothing. -/
def stored (p : Pipeline) : Edit → Pipeline
  | .load rows columns =>
      let sourceColumns := columns.getD (columnsOf rows)
      match Profile.ofColumns rows sourceColumns with
      | .ok profiles => { p with rows, sourceColumns, profiles }
      | .error _ => { p with rows, sourceColumns }
  | .change c =>
      match p.config.change c with
      | .ok config => { p with config }
      | .error _ => p
  | .recompute => p

theorem stored_transformed (p : Pipeline) (e : Edit) :
    (p.stored e).transformed = p.transformed := by
  cases e with
  | load rows columns =>
      simp only [stored]
      split <;> rfl
  | change c =>
      simp only [stored]
      split <;> rfl
  | recompute => rfl

/-! ## The ways in which an edit ends -/

/-- Computing the rows publishes the view if there is one and changes nothing otherwise. -/
theorem recompute_cases {p q : Pipeline} {error : Option PipelineError}
    (h : p.recompute = (q, error)) :
    (∃ transformed, p.config.view p.sourceColumns p.rows = .ok transformed ∧
      q = { p with transformed } ∧ error = none) ∨
    (∃ cause, p.config.view p.sourceColumns p.rows = .error cause ∧ q = p ∧
      error = some (.fault cause)) := by
  unfold recompute at h
  rw [Configuration.run_eq_view] at h
  split at h
  · next transformed hView =>
    cases h
    exact .inl ⟨transformed, hView, rfl, rfl⟩
  · next cause hView =>
    cases h
    exact .inr ⟨cause, hView, rfl, rfl⟩

/-- How an edit ends. Its profiles are those of its source if it is a new one; otherwise source and
profiles are the old ones. -/
inductive Ending (p : Pipeline) (e : Edit) : Pipeline → Option PipelineError → Prop
  | refused (refusal : Refusal) (hStored : p.stored e = p) :
      Ending p e p (some (.refused refusal))
  | published {transformed : List Row}
      (hView : (p.stored e).config.view (p.stored e).sourceColumns (p.stored e).rows =
        .ok transformed)
      (hConfig : p.config.WellFormed → (p.stored e).config.WellFormed)
      (hProfiles : Profile.ofColumns p.rows p.sourceColumns = .ok p.profiles →
        Profile.ofColumns (p.stored e).rows (p.stored e).sourceColumns =
          .ok (p.stored e).profiles) :
      Ending p e { p.stored e with transformed } none
  | failed {cause : Fault}
      (hFailed : (p.stored e).config.view (p.stored e).sourceColumns (p.stored e).rows =
          .error cause ∨
        Profile.ofColumns (p.stored e).rows (p.stored e).sourceColumns = .error cause) :
      Ending p e (p.stored e) (some (.fault cause))

private theorem ending_of_recompute {p q : Pipeline} {e : Edit} {error : Option PipelineError}
    (h : (p.stored e).recompute = (q, error))
    (hConfig : p.config.WellFormed → (p.stored e).config.WellFormed)
    (hProfiles : Profile.ofColumns p.rows p.sourceColumns = .ok p.profiles →
      Profile.ofColumns (p.stored e).rows (p.stored e).sourceColumns = .ok (p.stored e).profiles) :
    Ending p e q error := by
  rcases recompute_cases h with ⟨transformed, hView, rfl, rfl⟩ | ⟨cause, hView, rfl, rfl⟩
  · exact .published hView hConfig hProfiles
  · exact .failed (.inl hView)

private theorem ending_load {p q : Pipeline} {rows : List Row} {columns : Option (List String)}
    {error : Option PipelineError} (h : p.load rows columns = (q, error)) :
    Ending p (.load rows columns) q error := by
  unfold load at h
  dsimp only at h
  split at h
  · next cause hProfiles =>
    have hStored : p.stored (.load rows columns) =
        { p with rows, sourceColumns := columns.getD (columnsOf rows) } := by
      simp only [stored, hProfiles]
    cases h
    rw [← hStored]
    refine .failed (.inr ?_)
    rw [hStored]
    exact hProfiles
  · next profiles hProfiles =>
    have hStored : p.stored (.load rows columns) =
        { p with rows, sourceColumns := columns.getD (columnsOf rows), profiles } := by
      simp only [stored, hProfiles]
    rw [← hStored] at h
    refine ending_of_recompute h ?_ ?_
    · rw [hStored]
      exact id
    · rw [hStored]
      exact fun _ => hProfiles

private theorem ending_change {p q : Pipeline} {c : Change} {error : Option PipelineError}
    (h : p.change c = (q, error)) : Ending p (.change c) q error := by
  unfold change at h
  split at h
  · next refusal hChange =>
    cases h
    exact .refused refusal (by simp only [stored, hChange])
  · next config hChange =>
    have hStored : p.stored (.change c) = { p with config } := by
      simp only [stored, hChange]
    rw [← hStored] at h
    refine ending_of_recompute h ?_ ?_
    · rw [hStored]
      exact fun hConfig => hConfig.change hChange
    · rw [hStored]
      exact id

theorem ending_edit {p q : Pipeline} {e : Edit} {error : Option PipelineError}
    (h : p.edit e = (q, error)) : Ending p e q error := by
  cases e with
  | load rows columns => exact ending_load h
  | change c => exact ending_change h
  | recompute => exact ending_of_recompute h id id

/-- Apart from the rows that are shown, an edit leaves what it stored, however it ends. -/
theorem exists_edit_eq (p : Pipeline) (e : Edit) :
    ∃ transformed, (p.edit e).1 = { p.stored e with transformed } := by
  rcases hEdit : p.edit e with ⟨q, error⟩
  cases ending_edit hEdit with
  | refused refusal hStored => exact ⟨p.transformed, by rw [hStored]⟩
  | published hView hConfig hProfiles => exact ⟨_, rfl⟩
  | failed hFailed => exact ⟨(p.stored e).transformed, rfl⟩

/-- An edit that succeeds shows the view of what is stored. -/
theorem view_of_edit {p q : Pipeline} {e : Edit} (h : p.edit e = (q, none)) :
    q.config.view q.sourceColumns q.rows = .ok q.transformed := by
  cases ending_edit h with
  | published hView hConfig hProfiles => exact hView

/-! ## Runs of edits -/

/-- The steps of a run of edits, whatever becomes of each one: the pipeline before the edit, and
the outcome. -/
def steps (p : Pipeline) : List Edit → List (Pipeline × Outcome)
  | [] => []
  | e :: edits => (p, p.edit e) :: steps (p.edit e).1 edits

/-- The pipeline that a run of edits leaves behind. -/
def after (p : Pipeline) (edits : List Edit) : Pipeline :=
  edits.foldl (fun p e => (p.edit e).1) p

theorem after_concat (p : Pipeline) (front : List Edit) (last : Edit) :
    p.after (front ++ [last]) = ((p.after front).edit last).1 := by
  simp only [after, List.foldl_append, List.foldl_cons, List.foldl_nil]

theorem steps_concat (p : Pipeline) (front : List Edit) (last : Edit) :
    p.steps (front ++ [last]) =
      p.steps front ++ [(p.after front, (p.after front).edit last)] := by
  induction front generalizing p with
  | nil => rfl
  | cons e front ih => exact congrArg _ (ih (p.edit e).1)

/-- The last edit of a run succeeds, if there is one. -/
def EndsInSuccess (p : Pipeline) (edits : List Edit) : Prop :=
  ∀ step ∈ (p.steps edits).getLast?, step.2.2 = none

instance (p : Pipeline) (edits : List Edit) : Decidable (p.EndsInSuccess edits) :=
  inferInstanceAs (Decidable (∀ step ∈ (p.steps edits).getLast?, step.2.2 = none))

/-- A run that ends in success shows the view of what it stored. -/
theorem view_after {p : Pipeline} {edits : List Edit} (hNonempty : edits ≠ [])
    (hSuccess : p.EndsInSuccess edits) :
    (p.after edits).config.view (p.after edits).sourceColumns (p.after edits).rows =
      .ok (p.after edits).transformed := by
  obtain ⟨front, last, rfl⟩ := (List.eq_nil_or_concat edits).resolve_left hNonempty
  rw [List.concat_eq_append] at hSuccess ⊢
  have hLast : ((p.after front).edit last).2 = none :=
    hSuccess (p.after front, (p.after front).edit last) (by simp [steps_concat])
  rw [after_concat]
  exact view_of_edit (Prod.ext rfl hLast)

/-- An edit is settled if it succeeded or was refused. -/
def Settled : Option PipelineError → Prop
  | none | some (.refused _) => True
  | some (.fault _) => False

instance : DecidablePred Settled := fun error =>
  match error with
  | none | some (.refused _) => .isTrue trivial
  | some (.fault _) => .isFalse id

/-- An edit that is settled keeps a pipeline consistent. -/
theorem Consistent.edit {p q : Pipeline} {e : Edit} {error : Option PipelineError}
    (hp : p.Consistent) (h : p.edit e = (q, error)) (hSettled : Settled error) :
    q.Consistent := by
  cases ending_edit h with
  | refused refusal hStored => exact hp
  | published hView hConfig hProfiles =>
      exact
        { view := hView
          wellFormed := hConfig hp.wellFormed
          profiles := hProfiles hp.profiles }
  | failed hFailed => exact hSettled.elim

theorem eq_of_edit_refused {p q : Pipeline} {e : Edit} {refusal : Refusal}
    (h : p.edit e = (q, some (.refused refusal))) : q = p := by
  cases ending_edit h with
  | refused refusal hStored => rfl

private theorem Consistent.steps {p : Pipeline} (hp : p.Consistent) {edits : List Edit}
    (hSettled : ∀ step ∈ p.steps edits, Settled step.2.2) :
    ∀ step ∈ p.steps edits, step.2.1.Consistent := by
  induction edits generalizing p with
  | nil => simp [Pipeline.steps]
  | cons e edits ih =>
      have hFirst : (p.edit e).1.Consistent :=
        hp.edit rfl (hSettled (p, p.edit e) (by simp [Pipeline.steps]))
      intro step hStep
      rcases List.mem_cons.1 hStep with rfl | hLater
      · exact hFirst
      · exact ih hFirst (fun s hs => hSettled s (by simp [Pipeline.steps, hs])) step hLater

private theorem eq_edit_of_mem_steps {p : Pipeline} {edits : List Edit}
    {step : Pipeline × Outcome} (h : step ∈ p.steps edits) : ∃ e, step.2 = step.1.edit e := by
  induction edits generalizing p with
  | nil => simp [Pipeline.steps] at h
  | cons e edits ih =>
      rcases List.mem_cons.1 h with rfl | hLater
      · exact ⟨e, rfl⟩
      · exact ih hLater

/-- From the empty pipeline, edits that succeed or are refused lead through consistent pipelines
only, and those that are refused change nothing. -/
theorem consistent_of_settled_steps {edits : List Edit}
    (hSettled : ∀ step ∈ empty.steps edits, Settled step.2.2) :
    ∀ step ∈ empty.steps edits, step.2.1.Consistent ∧
      ∀ refusal, step.2.2 = some (.refused refusal) → step.2.1 = step.1 := by
  intro step hStep
  refine ⟨consistent_empty.steps hSettled step hStep, ?_⟩
  intro refusal hRefused
  obtain ⟨e, hEdit⟩ := eq_edit_of_mem_steps hStep
  exact eq_of_edit_refused (e := e) (by rw [← hEdit, ← hRefused])

/-- A run with a second formula of one name and a filter that is not there. -/
def runWithRefusals : List Edit := [
  .load [Row.empty.set "amount" (.int 2), Row.empty.set "amount" (.text "3")] none,
  .change (.addFormula "total" (.text "SUM(amount)")),
  .change (.addFormula "total" (.text "amount * 2")),
  .change (.removeFilter 0),
  .change (.toggleSort "amount")]

theorem consistent_of_runWithRefusals :
    ((empty.steps runWithRefusals).map fun step => step.2.2) =
        [none, none, some (.refused .repeatedName), some (.refused (.noFilter 0)), none] ∧
      ∀ step ∈ empty.steps runWithRefusals, step.2.1.Consistent ∧
        ∀ refusal, step.2.2 = some (.refused refusal) → step.2.1 = step.1 :=
  ⟨by decide +kernel, consistent_of_settled_steps (by decide +kernel)⟩

/-! ## Edits that fail -/

/-- What was stored before the rows could not be computed is not consistent. -/
private theorem not_consistent_of_failed {p : Pipeline} {cause : Fault}
    (h : p.config.view p.sourceColumns p.rows = .error cause ∨
      Profile.ofColumns p.rows p.sourceColumns = .error cause) : ¬ p.Consistent := by
  intro hp
  rcases h with hView | hProfiles
  · rw [hp.view] at hView
    cases hView
  · rw [hp.profiles] at hProfiles
    cases hProfiles

/-- An edit that fails leaves what it stored, beside the rows that were shown before. So nothing
changes if and only if it stored what was there already. In a consistent pipeline this is the case
exactly if the edit was refused; otherwise the rows that are shown no longer are the view of the
source under the configuration. -/
theorem edit_failed {p q : Pipeline} {e : Edit} {error : PipelineError}
    (h : p.edit e = (q, some error)) :
    q = p.stored e ∧ q.transformed = p.transformed ∧
      (p.Consistent → (q = p ↔ ∃ refusal, error = .refused refusal)) ∧
      ∀ cause, error = .fault cause → ¬ q.Consistent := by
  cases ending_edit h with
  | refused refusal hStored =>
      refine ⟨hStored.symm, rfl, ?_, ?_⟩
      · exact fun _ => ⟨fun _ => ⟨refusal, rfl⟩, fun _ => rfl⟩
      · intro cause hCause
        cases hCause
  | @failed cause hFailed =>
      have hBroken : ¬ (p.stored e).Consistent := not_consistent_of_failed hFailed
      refine ⟨rfl, stored_transformed p e, ?_, fun _ _ => hBroken⟩
      intro hp
      constructor
      · intro hSame
        exact absurd hp (hSame ▸ hBroken)
      · rintro ⟨refusal, hRefusal⟩
        cases hRefusal

/-- A pipeline whose texts cannot all be compared with each other. -/
def incomparable : Pipeline :=
  (empty.load [Row.empty.set "a" (.text "x\x00"), Row.empty.set "a" (.text "b")] none).1

/-- Sorting fails there, and the key to sort by stays in the configuration. -/
theorem edit_failed_incomparable :
    incomparable.config.sort = [] ∧
      (incomparable.stored (.change (.toggleSort "a"))).config.sort =
        [⟨.text "a", .ascending⟩] ∧
      ¬ (incomparable.edit (.change (.toggleSort "a"))).1.Consistent :=
  have hFailed : incomparable.edit (.change (.toggleSort "a")) =
      ((incomparable.edit (.change (.toggleSort "a"))).1, some (.fault .nulInText)) :=
    Prod.ext rfl (by decide +kernel)
  ⟨rfl, rfl, (edit_failed hFailed).2.2.2 .nulInText rfl⟩

/-- Not every edit that fails leaves the pipeline as it was. -/
theorem exists_failed_edit_with_change :
    ¬ ∀ (edits : List Edit), ∀ step ∈ empty.steps edits,
      step.2.2.isSome → step.2.1 = step.1 := by
  intro h
  have hSame := h [.load [Row.empty.set "a" (.text "x\x00"), Row.empty.set "a" (.text "b")] none,
    .change (.toggleSort "a")] (incomparable, incomparable.edit (.change (.toggleSort "a")))
    (by simp [steps, edit, incomparable]) (by decide +kernel)
  have hKeys := congrArg (fun p : Pipeline => p.config.sort.length) hSame
  revert hKeys
  decide +kernel

end Pipeline

end TableFlow
