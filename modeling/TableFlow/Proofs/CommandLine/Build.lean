import TableFlow.Proofs.CommandLine.Result
import TableFlow.Proofs.Configuration.Additions

/-!
# Arguments and configuration files agree

A pipeline can be described by a configuration file, by arguments, or by both. The arguments are
taken one after the other, each by a change with its own checks, while a file is read and checked as
a whole. It makes no difference: what the arguments tell could as well stand in the file.

The reason is that configurations that are accepted are closed under leaving out formulas. So if
the whole is accepted, each configuration on the way to it is, and a step succeeds exactly if the
configuration that it leads to is accepted.

## Main results

* `withArguments_eq_ok_iff`: the arguments add what they tell, if the whole is accepted.
* `built_eq_ok_iff`: the pipeline that is built is the one of the record with all stages.
-/

namespace TableFlow

/-- A configuration that passes the checks and can be run. -/
structure Configuration.Accepted (config : Configuration) : Prop where
  wellFormed : config.WellFormed
  fits : config.Fits
  texts : config.HasTextFormulas

/-- Formulas can be left out, and other stages do not matter. -/
theorem Configuration.Accepted.of_sublist {config whole : Configuration} (h : whole.Accepted)
    (hFormulas : config.formulas.Sublist whole.formulas) : config.Accepted where
  wellFormed :=
    { named := fun column hColumn => h.wellFormed.named column (hFormulas.mem hColumn)
      written := fun column hColumn => h.wellFormed.written column (hFormulas.mem hColumn)
      keyed := fun hKey => h.wellFormed.keyed ((hFormulas.map _).mem hKey)
      distinct := h.wellFormed.distinct.sublist (hFormulas.map _) }
  fits := Nat.le_trans hFormulas.length_le h.fits
  texts := fun column hColumn => h.texts column (hFormulas.mem hColumn)

namespace CommandLine

open TableFlow.Configuration (Accepted)

variable {config config' : Configuration} {α : Type}

/-! ## Steps that add stages -/

/-- From each accepted configuration the step leads to the one with what an argument tells, exactly
if the argument tells something and the configuration with it is accepted. -/
def Adds (step : Configuration → Except Stop Configuration) (told : Except String α)
    (add : α → Configuration → Configuration) : Prop :=
  ∀ config config' : Configuration, config.Accepted →
    (step config = .ok config' ↔ ∃ a, told = .ok a ∧ config' = add a config ∧ config'.Accepted)

theorem changed_eq_ok_iff {c : Change} :
    changed config c = .ok config' ↔
      config.change c = .ok config' ∧ config'.Fits ∧ config'.HasTextFormulas := by
  rw [← Configuration.fault?_eq_none_iff]
  unfold changed
  cases config.change c with
  | error refusal => exact iff_of_false nofun nofun
  | ok after =>
      dsimp only
      rw [Except.ok.injEq]
      cases hFault : after.fault? with
      | none =>
          rw [Option.elim_none, Except.ok.injEq]
          exact ⟨fun hSame => ⟨hSame, hSame ▸ hFault⟩, fun h => h.1⟩
      | some cause =>
          refine iff_of_false nofun ?_
          rintro ⟨rfl, hNone⟩
          rw [hFault] at hNone
          cases hNone

theorem parsed_eq_ok_iff {told : Except String α} {a : α} : parsed told = .ok a ↔ told = .ok a := by
  cases told with
  | error message => exact iff_of_false nofun nofun
  | ok b => rw [parsed, Except.mapError, Except.ok.injEq, Except.ok.injEq]

theorem adds_nothing {a : α} {add : α → Configuration → Configuration}
    (hNothing : ∀ config, add a config = config) : Adds .ok (.ok a) add := by
  intro config config' hConfig
  simp only [Except.ok.injEq, exists_eq_left', hNothing]
  exact ⟨fun hSame => ⟨hSame.symm, hSame ▸ hConfig⟩, fun h => h.1.symm⟩

/-- A change of other stages than the formulas is never refused. -/
theorem adds_changed {told : Except String α} {change : α → Configuration → Change}
    {add : α → Configuration → Configuration}
    (hChange : ∀ (a : α) (config : Configuration),
      config.change (change a config) = .ok (add a config))
    (hFormulas : ∀ (a : α) (config : Configuration), (add a config).formulas = config.formulas) :
    Adds (fun config => parsed told >>= fun a => changed config (change a config)) told add := by
  intro config config' hConfig
  rw [bind_eq_ok_iff]
  constructor
  · rintro ⟨a, hTold, hChanged⟩
    rw [changed_eq_ok_iff, hChange, Except.ok.injEq] at hChanged
    obtain ⟨rfl, hFits, hTexts⟩ := hChanged
    exact ⟨a, parsed_eq_ok_iff.1 hTold, rfl, hConfig.wellFormed.congr (hFormulas a config), hFits,
      hTexts⟩
  · rintro ⟨a, hTold, rfl, hAccepted⟩
    exact ⟨a, parsed_eq_ok_iff.2 hTold,
      changed_eq_ok_iff.2 ⟨hChange a config, hAccepted.fits, hAccepted.texts⟩⟩

/-- An argument that need not be there. -/
def toldIfGiven (read : String → Except String α) (argument : Option String) :
    Except String (Option α) :=
  match given argument with
  | some text => (read text).map some
  | none => .ok none

theorem adds_ifGiven {read : String → Except String α} {set : α → Configuration → Change}
    {add : Option α → Configuration → Configuration}
    (hNothing : ∀ config, add none config = config)
    (hChange : ∀ (a : α) (config : Configuration),
      config.change (set a config) = .ok (add (some a) config))
    (hFormulas : ∀ (a : α) (config : Configuration),
      (add (some a) config).formulas = config.formulas) (argument : Option String) :
    Adds (fun config =>
        match given argument with
        | some text => parsed (read text) >>= fun a => changed config (set a config)
        | none => .ok config)
      (toldIfGiven read argument) add := by
  unfold toldIfGiven
  cases given argument with
  | none => exact adds_nothing hNothing
  | some text =>
      intro config config' hConfig
      rw [adds_changed hChange hFormulas config config' hConfig]
      cases hRead : read text <;> simp [hRead, Except.map]

/-- The steps for a list of arguments add the list of what they tell, if every beginning of the
list is accepted as soon as the whole is. -/
theorem adds_foldlM {step : Configuration → String → Except Stop Configuration}
    {read : String → Except String α} {add : List α → Configuration → Configuration}
    (hNil : ∀ config, add [] config = config)
    (hAppend : ∀ (xs ys : List α) (config : Configuration),
      add ys (add xs config) = add (xs ++ ys) config)
    (hFormulas : ∀ (xs : List α) (config : Configuration),
      config.formulas.Sublist (add xs config).formulas)
    (hStep : ∀ text, Adds (step · text) (read text) fun x => add [x]) (texts : List String) :
    Adds (texts.foldlM step ·) (texts.mapM read) add := by
  induction texts with
  | nil => exact adds_nothing hNil
  | cons text texts ih =>
      intro config config' hConfig
      show (text :: texts).foldlM step config = _ ↔ _
      rw [List.foldlM_cons, List.mapM_cons, bind_eq_ok_iff]
      constructor
      · rintro ⟨next, hNext, hRest⟩
        obtain ⟨x, hRead, rfl, hAccepted⟩ := (hStep text config next hConfig).1 hNext
        obtain ⟨xs, hReads, hEq, hWhole⟩ := (ih _ config' hAccepted).1 hRest
        rw [hAppend] at hEq
        exact ⟨x :: xs, by rw [hRead, hReads]; rfl, hEq, hWhole⟩
      · rintro ⟨all, hTold, rfl, hWhole⟩
        obtain ⟨x, hRead, hTold⟩ := bind_eq_ok_iff.1 hTold
        obtain ⟨xs, hReads, hTold⟩ := bind_eq_ok_iff.1 hTold
        cases hTold
        have hSplit : add (x :: xs) config = add xs (add [x] config) := (hAppend [x] xs config).symm
        rw [hSplit] at hWhole ⊢
        have hAccepted := hWhole.of_sublist (hFormulas xs _)
        exact ⟨add [x] config, (hStep text config _ hConfig).2 ⟨x, hRead, rfl, hAccepted⟩,
          (ih _ _ hAccepted).2 ⟨xs, hReads, rfl, hWhole⟩⟩

/-! ## The arguments -/

theorem adds_filters (texts : List String) :
    Adds (texts.foldlM withFilter ·) (texts.mapM StageText.readFilter)
      fun filters config =>
        { config with filters := config.filters ++ filters.map .ofFilter } := by
  refine adds_foldlM (fun config => ?_) (fun xs ys config => ?_) (fun xs config => ?_)
    (fun text => ?_) texts
  · simp
  · simp
  · exact .refl _
  · exact @adds_changed _ (StageText.readFilter text) (fun f _ => .addFilter (.ofFilter f)) _
      (fun _ _ => rfl) (fun _ _ => rfl)

theorem adds_sort (texts : List String) :
    Adds (withSort · texts) (.ok (texts.map StageText.readSort))
      fun keys config => { config with sort := config.sort ++ keys.map .ofKey } := by
  cases texts with
  | nil => exact adds_nothing fun config => by simp
  | cons text texts =>
      exact @adds_changed _ (.ok ((text :: texts).map StageText.readSort))
        (fun keys config => .setSort (config.sort ++ keys.map .ofKey)) _ (fun _ _ => rfl)
        (fun _ _ => rfl)

theorem adds_aggregation (argument : Option String) :
    Adds (withAggregation · argument) (toldIfGiven StageText.readAggregation argument)
      fun aggregation config =>
        { config with aggregation := (aggregation.map .ofAggregation).or config.aggregation } :=
  adds_ifGiven (fun _ => rfl) (fun _ _ => rfl) (fun _ _ => rfl) argument

theorem adds_pivot (argument : Option String) :
    Adds (withPivot · argument) (toldIfGiven StageText.readPivot argument)
      fun pivot config => { config with pivot := (pivot.map .ofPivot).or config.pivot } :=
  adds_ifGiven (fun _ => rfl) (fun _ _ => rfl) (fun _ _ => rfl) argument

/-- Reads a computed column. -/
def readColumn (text : String) : Except String FormulaColumn :=
  (StageText.readFormula text).map fun (name, formula) => .ofText name formula

/-- Of the arguments only the formulas can be refused, and they are refused one by one exactly if
they are all together. -/
theorem adds_formulas (file : String) (texts : List String) :
    Adds (texts.foldlM (withFormula file) ·) (texts.mapM readColumn)
      fun columns config => { config with formulas := config.formulas ++ columns } := by
  refine adds_foldlM (fun config => ?_) (fun xs ys config => ?_)
    (fun xs config => List.sublist_append_left _ _) (fun text => ?_) texts
  · simp
  · simp
  · intro config config' hConfig
    unfold withFormula readColumn
    cases StageText.readFormula text with
    | error message => exact iff_of_false nofun nofun
    | ok told =>
        obtain ⟨name, formula⟩ := told
        show changed config (.addFormula name (.text formula)) = _ ↔ _
        rw [changed_eq_ok_iff]
        show config.addFormula _ _ = _ ∧ _ ↔ _
        rw [Configuration.addFormula_eq_ok_iff hConfig.wellFormed]
        constructor
        · rintro ⟨⟨hEq, hWellFormed⟩, hFits, hTexts⟩
          exact ⟨_, rfl, hEq, hWellFormed, hFits, hTexts⟩
        · rintro ⟨_, ⟨⟩, hEq, hWellFormed, hFits, hTexts⟩
          exact ⟨⟨hEq, hWellFormed⟩, hFits, hTexts⟩

/-- What all arguments tell, if each of them has its form. -/
def additions (options : Options) : Except String Additions := do
  let filters ← options.filters.mapM StageText.readFilter
  let aggregation ← toldIfGiven StageText.readAggregation options.aggregate
  let pivot ← toldIfGiven StageText.readPivot options.pivot
  let formulas ← options.formulas.mapM readColumn
  .ok
    { filters := filters.map .ofFilter, sort := (options.sort.map StageText.readSort).map .ofKey
      aggregation := aggregation.map .ofAggregation, pivot := pivot.map .ofPivot, formulas }

/-- The arguments add what they tell, if the configuration with it is accepted. -/
theorem withArguments_eq_ok_iff (options : Options) (hConfig : config.Accepted) :
    withArguments options config = .ok config' ↔
      ∃ added, additions options = .ok added ∧ config' = added.addTo config ∧ config'.Accepted := by
  constructor
  · intro hBuild
    obtain ⟨filtered, hFiltered, hBuild⟩ := bind_eq_ok_iff.1 hBuild
    obtain ⟨sorted, hSorted, hBuild⟩ := bind_eq_ok_iff.1 hBuild
    obtain ⟨aggregated, hAggregated, hBuild⟩ := bind_eq_ok_iff.1 hBuild
    obtain ⟨pivoted, hPivoted, hBuild⟩ := bind_eq_ok_iff.1 hBuild
    obtain ⟨filters, hFilters, rfl, hWithFilters⟩ := (adds_filters _ _ _ hConfig).1 hFiltered
    obtain ⟨keys, hKeys, rfl, hWithSort⟩ := (adds_sort _ _ _ hWithFilters).1 hSorted
    obtain ⟨aggregation, hAggregation, rfl, hWithAggregation⟩ :=
      (adds_aggregation _ _ _ hWithSort).1 hAggregated
    obtain ⟨pivot, hPivot, rfl, hWithPivot⟩ := (adds_pivot _ _ _ hWithAggregation).1 hPivoted
    obtain ⟨formulas, hFormulas, hEq, hWhole⟩ := (adds_formulas _ _ _ _ hWithPivot).1 hBuild
    cases hKeys
    refine ⟨⟨filters.map .ofFilter, _, aggregation.map .ofAggregation, pivot.map .ofPivot,
      formulas⟩, ?_, hEq, hWhole⟩
    rw [additions, hFilters, hAggregation, hPivot, hFormulas]
    rfl
  · rintro ⟨added, hAdded, rfl, hWhole⟩
    obtain ⟨filters, hFilters, hAdded⟩ := bind_eq_ok_iff.1 hAdded
    obtain ⟨aggregation, hAggregation, hAdded⟩ := bind_eq_ok_iff.1 hAdded
    obtain ⟨pivot, hPivot, hAdded⟩ := bind_eq_ok_iff.1 hAdded
    obtain ⟨formulas, hFormulas, hAdded⟩ := bind_eq_ok_iff.1 hAdded
    cases hAdded
    have hOnTheWay (between : Configuration) (hSame : between.formulas = config.formulas) :
        between.Accepted := hConfig.of_sublist (hSame ▸ .refl _)
    refine bind_eq_ok_iff.2 ⟨_, (adds_filters _ _ _ hConfig).2
      ⟨filters, hFilters, rfl, hOnTheWay _ (by rfl)⟩, ?_⟩
    refine bind_eq_ok_iff.2 ⟨_, (adds_sort _ _ _ (hOnTheWay _ (by rfl))).2
      ⟨_, rfl, rfl, hOnTheWay _ (by rfl)⟩, ?_⟩
    refine bind_eq_ok_iff.2 ⟨_, (adds_aggregation _ _ _ (hOnTheWay _ (by rfl))).2
      ⟨aggregation, hAggregation, rfl, hOnTheWay _ (by rfl)⟩, ?_⟩
    refine bind_eq_ok_iff.2 ⟨_, (adds_pivot _ _ _ (hOnTheWay _ (by rfl))).2
      ⟨pivot, hPivot, rfl, hOnTheWay _ (by rfl)⟩, ?_⟩
    exact (adds_formulas _ _ _ _ (hOnTheWay _ (by rfl))).2 ⟨formulas, hFormulas, rfl, hWhole⟩

/-! ## Files and arguments -/

/-- The record that a run starts from: that of the configuration file, or an empty one. -/
inductive StartsFrom (files : Files) (options : Options) : Cell → Prop
  | nothing (hNone : given options.config = none) : StartsFrom files options (.record [])
  | file {name text : String} {record : Cell} (hName : given options.config = some name)
      (hFile : files.lookup name = some (.text text))
      (hDocument : Json.document (Json.fileChars text) = .ok record) :
      StartsFrom files options record

/-- What building the pipeline of a run comes to. -/
def built (files : Files) (options : Options) : Except Stop Pipeline :=
  ((buildPipeline files options).run.run []).1

theorem built_eq (files : Files) (options : Options) :
    built files options =
      (baseConfiguration files options >>= withArguments options).map Pipeline.ofConfiguration :=
  gives_buildPipeline files options []

theorem StartsFrom.baseConfiguration_eq {files : Files} {options : Options} {record : Cell}
    (h : StartsFrom files options record) :
    baseConfiguration files options = changed .empty (.replace record) := by
  cases h with
  | nothing hNone =>
      rw [baseConfiguration, hNone]
      rfl
  | @file name text record hName hFile hDocument =>
      have hRecord : fileRecord files name = .ok record := by
        rw [fileRecord, hFile]
        simp only [hDocument]
      rw [baseConfiguration, hName]
      show (fileRecord files name >>= _) = _
      rw [hRecord]
      rfl

/-- **Arguments and configuration files agree.** Take a run that starts from a record that makes a
pipeline. With the stages of the arguments, the run builds a pipeline exactly if every argument has
its form and the record with these stages makes a pipeline, and then both are the same pipeline,
with the same configuration. -/
theorem built_eq_ok_iff {files : Files} {options : Options} {record : Cell} {base : Pipeline}
    (hStart : StartsFrom files options record) (hBase : Pipeline.ofRecord record = (base, none))
    (p : Pipeline) :
    built files options = .ok p ↔
      ∃ added, additions options = .ok added ∧
        Pipeline.ofRecord (added.mergeInto record) = (p, none) := by
  obtain ⟨config, hRecord, hFits, hTexts, -⟩ := Pipeline.ofRecord_eq_none_iff.1 hBase
  have hConfig : config.Accepted := ⟨Configuration.wellFormed_ofRecord hRecord, hFits, hTexts⟩
  have hFirst : baseConfiguration files options = .ok config := by
    rw [hStart.baseConfiguration_eq]
    exact changed_eq_ok_iff.2 ⟨hRecord, hFits, hTexts⟩
  rw [built_eq, hFirst]
  show (withArguments options config).map Pipeline.ofConfiguration = .ok p ↔ _
  have hMap : (withArguments options config).map Pipeline.ofConfiguration = .ok p ↔
      ∃ config', withArguments options config = .ok config' ∧
        p = Pipeline.ofConfiguration config' := by
    cases withArguments options config <;> simp [Except.map, eq_comm]
  rw [hMap]
  constructor
  · rintro ⟨config', hBuild, rfl⟩
    obtain ⟨added, hAdded, hEq, hAccepted⟩ := (withArguments_eq_ok_iff options hConfig).1 hBuild
    exact ⟨added, hAdded, Pipeline.ofRecord_eq_none_iff.2
      ⟨config', (added.ofRecord_mergeInto hRecord).2 ⟨hEq, hAccepted.wellFormed⟩, hAccepted.fits,
        hAccepted.texts, rfl⟩⟩
  · rintro ⟨added, hAdded, hMerged⟩
    obtain ⟨config', hMergedRecord, hFits', hTexts', rfl⟩ := Pipeline.ofRecord_eq_none_iff.1 hMerged
    obtain ⟨hEq, hWellFormed⟩ := (added.ofRecord_mergeInto hRecord).1 hMergedRecord
    exact ⟨config', (withArguments_eq_ok_iff options hConfig).2
      ⟨added, hAdded, hEq, hWellFormed, hFits', hTexts'⟩, rfl⟩

/-- A configuration whose keys are an empty text, and whose pivot an argument replaces. -/
def configText : String :=
  "\x7b\"sort\": \"\", \"pivot\": \x7b\"values\": [\"x\"]\x7d, " ++
    "\"formulas\": [\x7b\"name\": \"a\", \"formula\": \"x\"\x7d]\x7d"

def filesWithConfig : Files := [("c.json", .text configText)]

def optionsForAllStages : Options :=
  { file := "t.csv", config := some "c.json", filters := ["x:between:1:2", "y:contains:z"]
    sort := ["x:desc", "y"], aggregate := some "x:median", pivot := some "x,y:z:max"
    formulas := ["b = a * 2"] }

theorem built_eq_ok_iff_optionsForAllStages :
    ∃ record p added, StartsFrom filesWithConfig optionsForAllStages record ∧
      built filesWithConfig optionsForAllStages = .ok p ∧
      additions optionsForAllStages = .ok added ∧
      Pipeline.ofRecord (added.mergeInto record) = (p, none) ∧
      p.config.formulaKeys = ["a", "b"].map fun name => (Cell.text name).key? := by
  obtain ⟨record, hDocument, hBase⟩ : Succeeds (Json.document (Json.fileChars configText))
      fun record => (Pipeline.ofRecord record).2 = none := by decide +kernel
  have hStart : StartsFrom filesWithConfig optionsForAllStages record := .file rfl rfl hDocument
  obtain ⟨p, hBuilt, hNames⟩ : Succeeds (built filesWithConfig optionsForAllStages)
      fun p => p.config.formulaKeys = ["a", "b"].map fun name => (Cell.text name).key? := by
    decide +kernel
  obtain ⟨added, hAdded, hMerged⟩ := (built_eq_ok_iff hStart (Prod.ext rfl hBase) p).1 hBuilt
  exact ⟨record, p, added, hStart, hBuilt, hAdded, hMerged, hNames⟩

end CommandLine

end TableFlow
