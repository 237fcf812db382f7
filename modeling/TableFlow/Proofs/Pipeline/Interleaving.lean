import TableFlow.Proofs.Pipeline.Edits

/-!
# Edits of different parts

What a pipeline stores has parts: the source with its profiles, and one part for each kind of stage.
Most edits concern one part only. Such an edit reads nothing but its part, not even to decide if it
is refused, and writes nothing but its part. So what a run of edits leaves in a part is decided by
the edits of that part, in their order, and edits of different parts can be interleaved at will.

The rows that are shown are no part. They follow from the parts once an edit has succeeded.

## Main results

* `Pipeline.stored_eq_withPart`: an edit reads and writes its own part only.
* `Pipeline.content_after`: what a run leaves in a part is decided by the edits of that part.
* `Pipeline.after_eq_of_interleaved`: runs that differ in how edits of different parts are
  interleaved lead to the same pipeline.
-/

namespace TableFlow

/-- The parts of what a pipeline stores. -/
inductive Part where
  | source
  | filters
  | sort
  | aggregation
  | pivot
  | formulas
deriving DecidableEq, Repr

/-- What a part holds. -/
abbrev Part.Content : Part → Type
  | .source => List Row × List String × List Profile
  | .filters => List FilterConfig
  | .sort => List SortConfig
  | .aggregation => Option AggregationConfig
  | .pivot => Option PivotConfig
  | .formulas => List FormulaColumn

/-- The part that a change concerns; replacing the whole configuration concerns several. -/
def Change.part? : Change → Option Part
  | .addFilter _ | .updateFilter _ _ | .removeFilter _ | .clearFilters => some .filters
  | .toggleSort _ | .setSort _ | .clearSort => some .sort
  | .setAggregation _ => some .aggregation
  | .setPivot _ => some .pivot
  | .addFormula _ _ | .removeFormula _ => some .formulas
  | .replace _ => none

/-- The part that an edit concerns; computing the rows again concerns none. -/
def Edit.part? : Edit → Option Part
  | .load _ _ => some .source
  | .change c => c.part?
  | .recompute => none

/-! ## Parts of configurations -/

namespace Configuration

variable {config other : Configuration}

/-- A configuration with one part taken from another configuration. -/
def withPart (config other : Configuration) : Part → Configuration
  | .source => config
  | .filters => { config with filters := other.filters }
  | .sort => { config with sort := other.sort }
  | .aggregation => { config with aggregation := other.aggregation }
  | .pivot => { config with pivot := other.pivot }
  | .formulas => { config with formulas := other.formulas }

private theorem updateFilter_eq_withPart (h : config.filters = other.filters) (index : Int)
    (changes : List (String × Cell)) :
    config.updateFilter index changes =
      (other.updateFilter index changes).map (config.withPart · .filters) := by
  unfold updateFilter filterPosition
  rw [h]
  split
  · simp only [bind, Except.bind]
    split
    · rfl
    · split <;> rfl
  · rfl

private theorem removeFilter_eq_withPart (h : config.filters = other.filters) (index : Int) :
    config.removeFilter index = (other.removeFilter index).map (config.withPart · .filters) := by
  unfold removeFilter filterPosition
  rw [h]
  split <;> rfl

private theorem addFormula_eq_withPart (h : config.formulas = other.formulas) (name : String)
    (formula : Cell) :
    config.addFormula name formula =
      (other.addFormula name formula).map (config.withPart · .formulas) := by
  unfold addFormula formulaKeys
  rw [h]
  split
  · rfl
  · split <;> rfl

end Configuration

namespace Pipeline

variable {p q : Pipeline} {part : Part} {e : Edit}

/-- What a pipeline holds in a part. -/
def content (p : Pipeline) : (part : Part) → part.Content
  | .source => (p.rows, p.sourceColumns, p.profiles)
  | .filters => p.config.filters
  | .sort => p.config.sort
  | .aggregation => p.config.aggregation
  | .pivot => p.config.pivot
  | .formulas => p.config.formulas

/-- A pipeline with one part taken from another pipeline. -/
def withPart (p q : Pipeline) : Part → Pipeline
  | .source => { p with rows := q.rows, sourceColumns := q.sourceColumns, profiles := q.profiles }
  | part => { p with config := p.config.withPart q.config part }

theorem content_withPart_self (p q : Pipeline) (part : Part) :
    (p.withPart q part).content part = q.content part := by
  cases part <;> rfl

theorem content_withPart_of_ne (p q : Pipeline) {other : Part} (h : other ≠ part) :
    (p.withPart q part).content other = p.content other := by
  cases part <;> cases other <;> first | rfl | exact absurd rfl h

theorem withPart_eq_self (h : p.content part = q.content part) : p.withPart q part = p := by
  cases part with
  | source =>
      simp only [content, Prod.mk.injEq] at h
      obtain ⟨hRows, hColumns, hProfiles⟩ := h
      simp only [withPart, ← hRows, ← hColumns, ← hProfiles]
  | filters | sort | aggregation | pivot | formulas =>
      simp only [content] at h
      simp only [withPart, Configuration.withPart, ← h]

/-- A pipeline is made up of its parts and of the rows that it shows. -/
theorem eq_of_content (hContent : ∀ part, p.content part = q.content part)
    (hTransformed : p.transformed = q.transformed) : p = q := by
  have hSource := hContent .source
  have hFilters := hContent .filters
  have hSort := hContent .sort
  have hAggregation := hContent .aggregation
  have hPivot := hContent .pivot
  have hFormulas := hContent .formulas
  obtain ⟨rows, sourceColumns, profiles, config, transformed⟩ := p
  obtain ⟨filters, sort, aggregation, pivot, formulas⟩ := config
  simp only [content, Prod.mk.injEq] at *
  obtain ⟨rfl, rfl, rfl⟩ := hSource
  subst hFilters hSort hAggregation hPivot hFormulas hTransformed
  rfl

/-- The view of a pipeline is decided by its parts. -/
theorem view_eq_of_content (hContent : ∀ part, p.content part = q.content part) :
    p.config.view p.sourceColumns p.rows = q.config.view q.sourceColumns q.rows := by
  have hStored : { p with transformed := q.transformed } = q := by
    refine eq_of_content (fun part => ?_) rfl
    rw [← hContent part]
    cases part <;> rfl
  rw [← hStored]

/-! ## Edits of a part -/

/-- A change of a part reads that part only, also where it is refused, and writes it only. -/
theorem change_eq_withPart {c : Change} (hPart : c.part? = some part)
    (hSame : p.content part = q.content part) :
    p.config.change c = (q.config.change c).map (p.config.withPart · part) := by
  cases c with
  | updateFilter index changes =>
      cases hPart
      exact Configuration.updateFilter_eq_withPart hSame index changes
  | removeFilter index =>
      cases hPart
      exact Configuration.removeFilter_eq_withPart hSame index
  | addFormula name formula =>
      cases hPart
      exact Configuration.addFormula_eq_withPart hSame name formula
  | addFilter | clearFilters | toggleSort | setSort | clearSort | setAggregation | setPivot
  | removeFormula =>
      cases hPart
      simp only [content] at hSame
      simp only [Configuration.change, hSame]
      rfl
  | replace record => cases hPart

/-- An edit of a part reads that part only and writes it only: in two pipelines that agree in the
part it stores the same there, and leaves the rest of each as it was. -/
theorem stored_eq_withPart (hPart : e.part? = some part)
    (hSame : p.content part = q.content part) :
    p.stored e = p.withPart (q.stored e) part := by
  cases e with
  | load rows columns =>
      cases hPart
      simp only [content, Prod.mk.injEq] at hSame
      simp only [stored]
      split
      · rfl
      · simp only [withPart, ← hSame.2.2]
  | change c =>
      have hChange := change_eq_withPart hPart hSame
      cases hOther : q.config.change c with
      | error refusal =>
          rw [hOther] at hChange
          simp only [stored, hChange, hOther, Except.map]
          exact (withPart_eq_self hSame).symm
      | ok config =>
          rw [hOther] at hChange
          simp only [stored, hChange, hOther, Except.map]
          cases part with
          | source => cases c <;> cases hPart
          | filters | sort | aggregation | pivot | formulas => rfl
  | recompute => cases hPart

/-! ## Runs of edits -/

theorem content_edit (p : Pipeline) (e : Edit) (part : Part) :
    (p.edit e).1.content part = (p.stored e).content part := by
  obtain ⟨transformed, hEdit⟩ := exists_edit_eq p e
  rw [hEdit]
  cases part <;> rfl

/-- What a run of edits leaves in a part is decided by what was there and by the edits of the
part. -/
theorem content_after {edits : List Edit} (hParts : ∀ e ∈ edits, e.part?.isSome)
    (hSame : p.content part = q.content part) :
    (p.after edits).content part =
      (q.after (edits.filter fun e => e.part? = some part)).content part := by
  induction edits generalizing p q with
  | nil => exact hSame
  | cons e edits ih =>
      obtain ⟨hFirst, hRest⟩ := List.forall_mem_cons.1 hParts
      obtain ⟨edited, hEdited⟩ := Option.isSome_iff_exists.1 hFirst
      by_cases hPart : edited = part
      · subst hPart
        rw [List.filter_cons_of_pos (by simp [hEdited])]
        refine ih hRest ?_
        rw [content_edit, content_edit, stored_eq_withPart hEdited hSame, content_withPart_self]
      · rw [List.filter_cons_of_neg (by simp [hEdited, hPart])]
        refine ih hRest ?_
        rw [content_edit, stored_eq_withPart hEdited rfl,
          content_withPart_of_ne p (p.stored e) (Ne.symm hPart)]
        exact hSame

/-- A run of edits that have parts is empty if it has no edits of any part. -/
private theorem eq_nil_of_filter {edits : List Edit} (hParts : ∀ e ∈ edits, e.part?.isSome)
    (hNone : ∀ part, (edits.filter fun e => e.part? = some part) = []) : edits = [] := by
  refine List.eq_nil_iff_forall_not_mem.2 fun e he => ?_
  obtain ⟨part, hPart⟩ := Option.isSome_iff_exists.1 (hParts e he)
  exact List.filter_eq_nil_iff.1 (hNone part) e he (decide_eq_true hPart)

/-- **Edits of different parts commute.** Take two runs of edits, each of which concerns one part,
with the same edits of every part in the same order, but interleaved in different ways. If both
runs succeed, they lead to the same pipeline: the same source and profiles, the same configuration,
and so the same rows and columns. It is enough that the last edit of each run succeeds. -/
theorem after_eq_of_interleaved (p : Pipeline) {edits edits' : List Edit}
    (hParts : ∀ e ∈ edits, e.part?.isSome) (hParts' : ∀ e ∈ edits', e.part?.isSome)
    (hSame : ∀ part, (edits.filter fun e => e.part? = some part) =
      edits'.filter fun e => e.part? = some part)
    (hSuccess : p.EndsInSuccess edits) (hSuccess' : p.EndsInSuccess edits') :
    p.after edits = p.after edits' := by
  have hContent : ∀ part, (p.after edits).content part = (p.after edits').content part := by
    intro part
    rw [content_after hParts rfl, content_after hParts' rfl, hSame]
  by_cases hEmpty : edits = []
  · have hEmpty' : edits' = [] := by
      refine eq_nil_of_filter hParts' fun part => ?_
      rw [← hSame, hEmpty, List.filter_nil]
    rw [hEmpty, hEmpty']
  · have hNonempty' : edits' ≠ [] := by
      rintro rfl
      exact hEmpty (eq_nil_of_filter hParts fun part => by rw [hSame, List.filter_nil])
    have hView := view_after hEmpty hSuccess
    rw [view_eq_of_content hContent, view_after hNonempty' hSuccess'] at hView
    exact eq_of_content hContent (Except.ok.inj hView).symm

/-- Edits of all parts, one part after the other. -/
def editsByPart : List Edit := [
  .load [Row.empty.set "x" (.int 2), Row.empty.set "x" (.text "3")] none,
  .change (.addFilter ⟨.text "x", .text "gte", "2", none⟩),
  .change (.updateFilter 0 [("value", .int 1)]),
  .change (.toggleSort "x"),
  .change (.toggleSort "x"),
  .change (.setAggregation (some ⟨.text "x", .sum⟩)),
  .change (.setPivot (some ⟨[.text "x"], [], [.text "_value"], .greatest⟩)),
  .change (.addFormula "double" (.text "_value_max * 2")),
  .change (.addFormula "double" (.text "0")),
  .change (.addFormula "row" (.text "ROW()"))]

/-- The same edits, with those of different parts mixed; the refused one stays the second of its
part. -/
def editsMixed : List Edit := [
  .change (.toggleSort "x"),
  .change (.addFormula "double" (.text "_value_max * 2")),
  .change (.addFilter ⟨.text "x", .text "gte", "2", none⟩),
  .change (.addFormula "double" (.text "0")),
  .change (.setPivot (some ⟨[.text "x"], [], [.text "_value"], .greatest⟩)),
  .change (.toggleSort "x"),
  .change (.addFormula "row" (.text "ROW()")),
  .change (.setAggregation (some ⟨.text "x", .sum⟩)),
  .load [Row.empty.set "x" (.int 2), Row.empty.set "x" (.text "3")] none,
  .change (.updateFilter 0 [("value", .int 1)])]

theorem after_editsByPart :
    (∀ part, (editsByPart.filter fun e => e.part? = some part) =
        editsMixed.filter fun e => e.part? = some part) ∧
      empty.EndsInSuccess editsByPart ∧ empty.EndsInSuccess editsMixed ∧
      empty.after editsByPart = empty.after editsMixed := by
  have hSame : ∀ part, (editsByPart.filter fun e => e.part? = some part) =
      editsMixed.filter fun e => e.part? = some part := by
    intro part
    cases part <;> rfl
  have hSuccess : empty.EndsInSuccess editsByPart := by decide +kernel
  have hSuccess' : empty.EndsInSuccess editsMixed := by decide +kernel
  exact ⟨hSame, hSuccess, hSuccess',
    after_eq_of_interleaved empty (by decide) (by decide) hSame hSuccess hSuccess'⟩

end Pipeline

end TableFlow
