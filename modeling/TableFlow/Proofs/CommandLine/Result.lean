import TableFlow.CommandLine.Run
import TableFlow.Proofs.Pipeline.Described

/-!
# What building a pipeline comes to

The steps of a run collect notices, on which nothing depends. So each step gives one result whatever
the notices are, and building a pipeline without a source comes to changes of configurations, one
for each argument. A change is refused, mostly with a message, or its configuration cannot be run,
or the run goes on with that configuration.

## Main results

* `gives_buildPipeline`: building a pipeline comes to reading and changing configurations.
-/

namespace TableFlow.CommandLine

/-! ## Results of steps -/

section

variable {α β γ δ : Type} {represent : γ → α} {representNext : δ → β}

/-- The step gives what the result stands for, whatever notices there are. -/
def Gives (represent : γ → α) (step : Step α) (result : Except Stop γ) : Prop :=
  ∀ notices, (step.run.run notices).1 = result.map represent

theorem gives_pure (c : γ) : Gives represent (pure (represent c)) (.ok c) := fun _ => rfl

theorem gives_throw (stop : Stop) : Gives represent (throw stop) (.error stop) := fun _ => rfl

theorem Gives.bind {step : Step α} {next : α → Step β} {result : Except Stop γ}
    {nextResult : γ → Except Stop δ} (h : Gives represent step result)
    (hNext : ∀ c, Gives representNext (next (represent c)) (nextResult c)) :
    Gives representNext (step >>= next) (result >>= nextResult) := by
  intro notices
  have hResult := h notices
  show (ExceptT.bindCont next (step.run.run notices).1 |>.run (step.run.run notices).2).1 = _
  rw [hResult]
  cases result with
  | error stop => rfl
  | ok c => exact hNext c _

/-- Steps for the elements of a list, one after the other. -/
theorem gives_foldlM {step : α → β → Step α} {next : γ → β → Except Stop γ}
    (h : ∀ c x, Gives represent (step (represent c) x) (next c x)) (c : γ) (xs : List β) :
    Gives represent (xs.foldlM step (represent c)) (xs.foldlM next c) := by
  induction xs generalizing c with
  | nil => exact gives_pure c
  | cons x xs ih =>
      rw [List.foldlM_cons, List.foldlM_cons]
      exact (h c x).bind ih

end

/-! ## Changes of configurations -/

/-- A message about a configuration. -/
def invalidStop (message : String) : Stop := .message ("Invalid pipeline, " ++ message)

/-- A message about the file that is loaded. -/
def notLoadedStop (file message : String) : Stop :=
  .message ("Unable to load " ++ file ++ ", " ++ message)

/-- What an argument tells, or the message about it. -/
def parsed {α : Type} (result : Except String α) : Except Stop α := result.mapError invalidStop

/-- The configuration after a change, if it can be run. -/
def changed (config : Configuration) (c : Change) : Except Stop Configuration :=
  match config.change c with
  | .error refusal =>
      .error (refusal.message?.elim (.pipeline (.refused refusal)) invalidStop)
  | .ok config => config.fault?.elim (.ok config) fun cause => .error (.pipeline (.fault cause))

open Pipeline (ofConfiguration)

theorem gives_orInvalid {α : Type} (result : Except String α) :
    Gives id (orInvalid result) (parsed result) := by
  cases result with
  | error message => exact gives_throw _
  | ok a => exact gives_pure a

/-- No change of a pipeline without a source comes to a fault that `shown` is for. -/
theorem gives_change (shown : String → Step Pipeline) (config : Configuration) (c : Change) :
    Gives ofConfiguration (change shown (ofConfiguration config) c) (changed config c) := by
  have hSettle : Gives ofConfiguration (settle shown ((ofConfiguration config).change c))
      (changed config c) := by
    rw [Pipeline.change_ofConfiguration]
    unfold changed
    cases config.change c with
    | error refusal =>
        cases hMessage : refusal.message? <;>
          simp only [settle, PipelineError.message?, hMessage] <;> exact gives_throw _
    | ok config =>
        cases hFault : config.fault? with
        | none =>
            simp only [hFault]
            exact gives_pure config
        | some cause =>
            have hMessage : cause.message? = none := Configuration.message?_of_fault? hFault
            simp only [hFault, Option.map_some, settle, PipelineError.message?, hMessage]
            exact gives_throw _
  exact fun notices => hSettle (notices ++ (ofConfiguration config).changeNotices c)

/-! ## Building a pipeline -/

/-- The configuration with the filter of an argument. -/
def withFilter (config : Configuration) (text : String) : Except Stop Configuration := do
  let f ← parsed (StageText.readFilter text)
  changed config (.addFilter (.ofFilter f))

/-- The configuration with the keys of arguments. -/
def withSort (config : Configuration) (texts : List String) : Except Stop Configuration :=
  if texts.isEmpty then .ok config
  else changed config (.setSort (config.sort ++ (texts.map StageText.readSort).map .ofKey))

/-- The configuration with the aggregation of an argument. -/
def withAggregation (config : Configuration) (argument : Option String) :
    Except Stop Configuration :=
  match given argument with
  | some text => do
      let aggregation ← parsed (StageText.readAggregation text)
      changed config (.setAggregation (some (.ofAggregation aggregation)))
  | none => .ok config

/-- The configuration with the pivot of an argument. -/
def withPivot (config : Configuration) (argument : Option String) : Except Stop Configuration :=
  match given argument with
  | some text => do
      let layout ← parsed (StageText.readPivot text)
      changed config (.setPivot (some (.ofPivot layout)))
  | none => .ok config

/-- The configuration with the computed column of an argument. Other than for the other arguments,
the message about one of another form is about the file that is loaded. -/
def withFormula (file : String) (config : Configuration) (text : String) :
    Except Stop Configuration :=
  match StageText.readFormula text with
  | .ok (name, formula) => changed config (.addFormula name (.text formula))
  | .error message => .error (notLoadedStop file message)

/-- The configuration with the stages of all arguments. -/
def withArguments (options : Options) (config : Configuration) : Except Stop Configuration := do
  let filtered ← options.filters.foldlM withFilter config
  let sorted ← withSort filtered options.sort
  let aggregated ← withAggregation sorted options.aggregate
  let pivoted ← withPivot aggregated options.pivot
  options.formulas.foldlM (withFormula options.file) pivoted

/-- The configuration file as a record, or the message about it. -/
def fileRecord (files : Files) (name : String) : Except Stop Cell :=
  let unreadable (message : String) : Except Stop Cell :=
    .error (invalidStop ("Unable to read " ++ name ++ ", " ++ message))
  match files.lookup name with
  | none => unreadable (missingFileMessage name)
  | some (.text s) =>
      match Json.document (Json.fileChars s) with
      | .ok record => .ok record
      | .error e =>
          (e.message? (Json.fileChars s)).elim (.error (.source (.fault .tooDeep))) unreadable
  | some _ => unreadable "the file is no text"

/-- The configuration of the configuration file. -/
def baseConfiguration (files : Files) (options : Options) : Except Stop Configuration :=
  match given options.config with
  | some name => do
      let record ← fileRecord files name
      changed .empty (.replace record)
  | none => .ok .empty

theorem gives_readConfig (files : Files) (name : String) :
    Gives id (readConfig files name) (fileRecord files name) := by
  unfold readConfig fileRecord
  cases files.lookup name with
  | none => exact gives_throw _
  | some content =>
      cases content with
      | text s =>
          cases hDocument : Json.document (Json.fileChars s) with
          | ok record =>
              simp only [hDocument]
              exact gives_pure record
          | error e =>
              simp only [hDocument]
              cases e.message? (Json.fileChars s) <;> exact gives_throw _
      | columnar table => exact gives_throw _
      | workbook sheets => exact gives_throw _

theorem gives_basePipeline (files : Files) (options : Options) :
    Gives ofConfiguration (basePipeline files options) (baseConfiguration files options) := by
  unfold basePipeline baseConfiguration
  cases given options.config with
  | none => exact gives_pure Configuration.empty
  | some name =>
      exact (gives_readConfig files name).bind fun record =>
        gives_change _ Configuration.empty (.replace record)

theorem gives_addFilter (config : Configuration) (text : String) :
    Gives ofConfiguration (addFilter (ofConfiguration config) text) (withFilter config text) :=
  (gives_orInvalid _).bind fun _ => gives_change _ _ _

theorem gives_addSort (config : Configuration) (texts : List String) :
    Gives ofConfiguration (addSort (ofConfiguration config) texts) (withSort config texts) := by
  unfold addSort withSort
  split
  · exact gives_pure config
  · exact gives_change _ _ _

theorem gives_setAggregation (config : Configuration) (argument : Option String) :
    Gives ofConfiguration (setAggregation (ofConfiguration config) argument)
      (withAggregation config argument) := by
  unfold setAggregation withAggregation
  cases given argument with
  | none => exact gives_pure config
  | some text => exact (gives_orInvalid _).bind fun _ => gives_change _ _ _

theorem gives_setPivot (config : Configuration) (argument : Option String) :
    Gives ofConfiguration (setPivot (ofConfiguration config) argument)
      (withPivot config argument) := by
  unfold setPivot withPivot
  cases given argument with
  | none => exact gives_pure config
  | some text => exact (gives_orInvalid _).bind fun _ => gives_change _ _ _

theorem gives_addFormula (options : Options) (config : Configuration) (text : String) :
    Gives ofConfiguration (addFormula options (ofConfiguration config) text)
      (withFormula options.file config text) := by
  unfold addFormula withFormula
  cases StageText.readFormula text with
  | error message => exact gives_throw _
  | ok column => exact gives_change _ _ _

/-- Building a pipeline comes to changing a configuration, first by the file and then by the
arguments. -/
theorem gives_buildPipeline (files : Files) (options : Options) :
    Gives ofConfiguration (buildPipeline files options)
      (baseConfiguration files options >>= withArguments options) := by
  refine (gives_basePipeline files options).bind fun base => ?_
  refine (gives_foldlM gives_addFilter base options.filters).bind fun filtered => ?_
  refine (gives_addSort filtered options.sort).bind fun sorted => ?_
  refine (gives_setAggregation sorted options.aggregate).bind fun aggregated => ?_
  refine (gives_setPivot aggregated options.pivot).bind fun pivoted => ?_
  exact gives_foldlM (gives_addFormula options) pivoted options.formulas

end TableFlow.CommandLine
