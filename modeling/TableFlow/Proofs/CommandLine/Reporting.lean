import TableFlow.Proofs.CommandLine.Build
import TableFlow.Proofs.Text.Split

/-!
# What is reported about a description

A description of a pipeline that cannot be used is reported as an invalid pipeline, whatever is
wrong with it: a file that is no document, a value of another kind, a field that is missing, an
argument of another form, a name that is taken. There are exceptions. Lists and records that are
nested too deeply, a name that is a list or a record, formulas that are too many and a formula that
is no text end in errors that are not reported at all. And an argument for a formula that has no
equals sign is reported as if the table could not be loaded.

## Main results

* `ofRecord_reported`: what a record comes to.
* `built_cases` and `built_of_unreportedRun`: what a run comes to.
* `built_notLoaded_iff`: when an argument is reported as the table is.
* `descriptions_reported`: there are no other exceptions.
-/

namespace TableFlow

/-! ## Records -/

/-- Errors that are not reported, with the records that end in them. -/
inductive Pipeline.Unreported (record : Cell) : PipelineError → Prop
  /-- A value that is shown as a text is nested too deeply. -/
  | nested (h : Configuration.decode record = .error .tooDeep) :
      Unreported record (.refused (.unreadable .tooDeep))
  /-- The name of a formula is a list or a record. -/
  | name {config : Configuration} {column : FormulaColumn}
      (hRead : Configuration.decode record = .ok config)
      (hParts : config.formulas.any Configuration.lacksPart = false)
      (hColumn : column ∈ config.formulas) (hName : column.name.key? = none) :
      Unreported record (.refused .nameNotKey)
  /-- Formulas are too many. -/
  | chain {config : Configuration} (hRecord : Configuration.ofRecord record = .ok config)
      (hLong : callLimit < config.formulas.length) : Unreported record (.fault .tooDeep)
  /-- A formula is no text. -/
  | formula {config : Configuration} {column : FormulaColumn}
      (hRecord : Configuration.ofRecord record = .ok config)
      (hFits : config.formulas.length ≤ callLimit) (hColumn : column ∈ config.formulas)
      (hFormula : ¬ column.formula.IsText) : Unreported record (.fault .formulaNotText)

namespace Configuration

variable {config : Configuration}

theorem fault?_of_long (h : callLimit < config.formulas.length) : config.fault? = some .tooDeep :=
  if_pos (Nat.not_le.2 h)

theorem fault?_of_not_text (hFits : config.Fits) {column : FormulaColumn}
    (hColumn : column ∈ config.formulas) (hFormula : ¬ column.formula.IsText) :
    config.fault? = some .formulaNotText := by
  rw [fault?, if_neg (not_not_intro hFits), if_pos fun hTexts => hFormula (hTexts column hColumn)]

/-- Formulas are too many, or one is no text. -/
theorem cases_of_fault? {cause : Fault} (h : config.fault? = some cause) :
    (cause = .tooDeep ∧ callLimit < config.formulas.length) ∨
      (cause = .formulaNotText ∧ config.Fits ∧
        ∃ column ∈ config.formulas, ¬ column.formula.IsText) := by
  unfold fault? at h
  split at h
  · next hLong =>
    cases h
    exact .inl ⟨rfl, Nat.not_le.1 hLong⟩
  · next hFits =>
    split at h
    · next hTexts =>
      cases h
      refine .inr ⟨rfl, Classical.not_not.1 hFits, ?_⟩
      simpa [HasTextFormulas] using hTexts
    · cases h

end Configuration

namespace Pipeline

theorem ofRecord_of_refused {record : Cell} {refusal : Refusal}
    (h : Configuration.ofRecord record = .error refusal) :
    (ofRecord record).2 = some (.refused refusal) := by
  rw [ofRecord_eq, h]

theorem ofRecord_of_fault {record : Cell} {config : Configuration} {cause : Fault}
    (h : Configuration.ofRecord record = .ok config) (hFault : config.fault? = some cause) :
    (ofRecord record).2 = some (.fault cause) := by
  rw [ofRecord_eq, h]
  simp only [hFault, Option.map_some]

theorem ofRecord_of_unreported {record : Cell} {e : PipelineError} (h : Unreported record e) :
    (ofRecord record).2 = some e := by
  cases h with
  | nested hRead =>
      apply ofRecord_of_refused
      rw [Configuration.ofRecord, hRead]
  | @name config column hRead hParts hColumn hName =>
      have hKey : none ∈ config.formulaKeys := List.mem_map.2 ⟨column, hColumn, hName⟩
      apply ofRecord_of_refused
      simp only [Configuration.ofRecord, hRead, hParts, hKey, Bool.false_eq_true, if_false, if_true]
  | chain hRecord hLong => exact ofRecord_of_fault hRecord (Configuration.fault?_of_long hLong)
  | formula hRecord hFits hColumn hFormula =>
      exact ofRecord_of_fault hRecord (Configuration.fault?_of_not_text hFits hColumn hFormula)

/-- A record that is refused without a message is an exception. -/
theorem unreported_of_refused {record : Cell} {refusal : Refusal}
    (h : Configuration.ofRecord record = .error refusal) (hMessage : refusal.message? = none) :
    Unreported record (.refused refusal) := by
  unfold Configuration.ofRecord at h
  cases hRead : Configuration.decode record with
  | error e =>
      rw [hRead] at h
      cases h
      cases e with
      | tooDeep => exact .nested hRead
      | _ => cases hMessage
  | ok config =>
      rw [hRead] at h
      dsimp only at h
      split at h
      · cases h
        cases hMessage
      · next hParts =>
        split at h
        · next hKey =>
          cases h
          obtain ⟨column, hColumn, hName⟩ := List.mem_map.1 hKey
          exact .name hRead (Bool.not_eq_true _ |>.mp hParts) hColumn hName
        · split at h
          · cases h
            cases hMessage
          · cases h

theorem unreported_of_fault {record : Cell} {config : Configuration} {cause : Fault}
    (h : Configuration.ofRecord record = .ok config) (hFault : config.fault? = some cause) :
    Unreported record (.fault cause) := by
  rcases Configuration.cases_of_fault? hFault with ⟨rfl, hLong⟩ |
    ⟨rfl, hFits, column, hColumn, hFormula⟩
  · exact .chain h hLong
  · exact .formula h hFits hColumn hFormula

/-- There are three ways in which a record can end. -/
theorem ofRecord_reported (record : Cell) :
    (ofRecord record).2 = none ∨
      (∃ refusal, (ofRecord record).2 = some (.refused refusal) ∧ refusal.message?.isSome) ∨
      ∃ e, (ofRecord record).2 = some e ∧ Unreported record e := by
  rw [ofRecord_eq]
  cases hRecord : Configuration.ofRecord record with
  | error refusal =>
      cases hMessage : refusal.message? with
      | some message => exact .inr (.inl ⟨refusal, rfl, by rw [hMessage]; rfl⟩)
      | none => exact .inr (.inr ⟨_, rfl, unreported_of_refused hRecord hMessage⟩)
  | ok config =>
      cases hFault : config.fault? with
      | none => exact .inl (by simp only [hFault, Option.map_none])
      | some cause =>
          exact .inr (.inr ⟨_, by simp only [hFault, Option.map_some],
            unreported_of_fault hRecord hFault⟩)

end Pipeline

namespace CommandLine

open Pipeline (Unreported)

variable {config : Configuration} {files : Files} {options : Options}

/-! ## Kinds of stops -/

/-- A stop that reports an invalid pipeline. -/
def IsInvalid (stop : Stop) : Prop := ∃ message, stop = invalidStop message

/-- A report of a table that is not loaded does not report an invalid pipeline. -/
theorem not_isInvalid_notLoadedStop (file message : String) :
    ¬ IsInvalid (notLoadedStop file message) := by
  rintro ⟨other, hSame⟩
  have hFirst := congrArg (fun text : String => text.toList.head?) (Stop.message.inj hSame)
  simp [String.toList_append] at hFirst

/-- Stops that report nothing, with the runs that end in them. -/
inductive UnreportedRun (files : Files) (options : Options) : Stop → Prop
  /-- The configuration file is nested too deeply. -/
  | nested {name text : String} (hName : given options.config = some name)
      (hFile : files.lookup name = some (.text text))
      (hDocument : Json.document (Json.fileChars text) = .error .tooDeep) :
      UnreportedRun files options (.source (.fault .tooDeep))
  /-- The record that the run starts from ends in an error that is not reported. -/
  | record {record : Cell} {e : PipelineError} (hStart : StartsFrom files options record)
      (h : Unreported record e) : UnreportedRun files options (.pipeline e)
  /-- An argument adds a formula that is one too many. -/
  | chain {front back : List String} {text name formula : String} {p : Pipeline}
      {config : Configuration} (hSplit : options.formulas = front ++ text :: back)
      (hFront : built files { options with formulas := front } = .ok p)
      (hRead : StageText.readFormula text = .ok (name, formula))
      (hAdd : p.config.addFormula name (.text formula) = .ok config)
      (hLong : callLimit < config.formulas.length) :
      UnreportedRun files options (.pipeline (.fault .tooDeep))

/-- The result is a configuration that can be run, or one of some stops. -/
def EndsIn (stops : Stop → Prop) : Except Stop Configuration → Prop
  | .ok config => config.fault? = none
  | .error stop => stops stop

section

variable {stops : Stop → Prop} {result : Except Stop Configuration}
  {next : Configuration → Except Stop Configuration}

theorem EndsIn.mono {stops' : Stop → Prop} (h : EndsIn stops result)
    (hStops : ∀ stop, stops stop → stops' stop) : EndsIn stops' result := by
  cases result with
  | ok config => exact h
  | error stop => exact hStops stop h

theorem EndsIn.bind (h : EndsIn stops result)
    (hNext : ∀ config : Configuration, config.fault? = none → EndsIn stops (next config)) :
    EndsIn stops (result >>= next) := by
  cases result with
  | ok config => exact hNext config h
  | error stop => exact h

theorem endsIn_foldlM {α : Type} {step : Configuration → α → Except Stop Configuration}
    (hStep : ∀ (x : α) (config : Configuration), config.fault? = none →
      EndsIn stops (step config x)) (xs : List α) (h : config.fault? = none) :
    EndsIn stops (xs.foldlM step config) := by
  induction xs generalizing config with
  | nil => exact h
  | cons x xs ih =>
      rw [List.foldlM_cons]
      exact (hStep x config h).bind fun next hNext => ih hNext

end

/-! ## Steps that stop -/

/-- A change of other stages than the formulas succeeds. -/
theorem endsIn_changed {c : Change} {config' : Configuration} (h : config.fault? = none)
    (hChange : config.change c = .ok config') (hFormulas : config'.formulas = config.formulas) :
    EndsIn IsInvalid (changed config c) := by
  have hFault : config'.fault? = none := by
    rw [Configuration.fault?_eq_none_iff] at h ⊢
    unfold Configuration.Fits Configuration.HasTextFormulas at h ⊢
    rwa [hFormulas]
  rw [changed, hChange]
  simp only [hFault, Option.elim_none]
  exact hFault

theorem endsIn_parsed_bind {α : Type} {told : Except String α}
    {next : α → Except Stop Configuration} (h : ∀ a, EndsIn IsInvalid (next a)) :
    EndsIn IsInvalid (parsed told >>= next) := by
  cases told with
  | error message => exact ⟨message, rfl⟩
  | ok a => exact h a

theorem endsIn_withFilter (text : String) (h : config.fault? = none) :
    EndsIn IsInvalid (withFilter config text) :=
  endsIn_parsed_bind fun _ => endsIn_changed h rfl rfl

theorem endsIn_withSort (texts : List String) (h : config.fault? = none) :
    EndsIn IsInvalid (withSort config texts) := by
  unfold withSort
  split
  · exact h
  · exact endsIn_changed h rfl rfl

theorem endsIn_withAggregation (argument : Option String) (h : config.fault? = none) :
    EndsIn IsInvalid (withAggregation config argument) := by
  unfold withAggregation
  split
  · exact endsIn_parsed_bind fun _ => endsIn_changed h rfl rfl
  · exact h

theorem endsIn_withPivot (argument : Option String) (h : config.fault? = none) :
    EndsIn IsInvalid (withPivot config argument) := by
  unfold withPivot
  split
  · exact endsIn_parsed_bind fun _ => endsIn_changed h rfl rfl
  · exact h

theorem hasTextFormulas_of_addFormula {config' : Configuration} {name text : String}
    (h : config.HasTextFormulas) (hAdd : config.addFormula name (.text text) = .ok config') :
    config'.HasTextFormulas := by
  unfold Configuration.addFormula at hAdd
  split at hAdd
  · cases hAdd
  · split at hAdd
    · cases hAdd
    · cases hAdd
      exact List.forall_mem_append.2 ⟨h, List.forall_mem_singleton.2 ⟨text, rfl⟩⟩

/-- The message about an argument for a formula that has no equals sign. -/
def formulaMessage (text : String) : String :=
  StageText.formMessage "Formulas" "NAME=EXPRESSION" text

theorem withFormula_of_not_mem {file text : String} (h : '=' ∉ text.toList) :
    withFormula file config text = .error (notLoadedStop file (formulaMessage text)) := by
  rw [withFormula, StageText.readFormula, Text.cutFirst?_eq_none_iff.2 h]
  rfl

theorem withFormula_of_long {file text name formula : String} {config' : Configuration}
    (hRead : StageText.readFormula text = .ok (name, formula))
    (hAdd : config.addFormula name (.text formula) = .ok config')
    (hLong : callLimit < config'.formulas.length) :
    withFormula file config text = .error (.pipeline (.fault .tooDeep)) := by
  have hChange : config.change (.addFormula name (.text formula)) = .ok config' := hAdd
  rw [withFormula, hRead]
  simp only [changed, hChange, Configuration.fault?_of_long hLong, Option.elim_some]

/-- Stops at an argument for a formula. -/
inductive FormulaStop (config : Configuration) (file text : String) : Stop → Prop
  /-- It has no equals sign. -/
  | unmarked (hMark : '=' ∉ text.toList) :
      FormulaStop config file text (notLoadedStop file (formulaMessage text))
  /-- The formula is refused. -/
  | refused (hMark : '=' ∈ text.toList) (message : String) :
      FormulaStop config file text (invalidStop message)
  /-- The formula is one too many. -/
  | tooMany {name formula : String} {config' : Configuration} (hMark : '=' ∈ text.toList)
      (hRead : StageText.readFormula text = .ok (name, formula))
      (hAdd : config.addFormula name (.text formula) = .ok config')
      (hLong : callLimit < config'.formulas.length) :
      FormulaStop config file text (.pipeline (.fault .tooDeep))

/-- A formula that is refused has no part, or its name is taken. -/
theorem exists_message_of_addFormula {name text : String} {refusal : Refusal}
    (h : config.addFormula name (.text text) = .error refusal) :
    ∃ message, refusal.message? = some message := by
  unfold Configuration.addFormula at h
  split at h
  · cases h
    exact ⟨_, rfl⟩
  · split at h
    · cases h
      exact ⟨_, rfl⟩
    · cases h

theorem endsIn_withFormula (file text : String) (h : config.fault? = none) :
    EndsIn (FormulaStop config file text) (withFormula file config text) := by
  by_cases hMark : '=' ∈ text.toList
  · cases hRead : StageText.readFormula text with
    | error message =>
        unfold StageText.readFormula at hRead
        split at hRead
        · cases hRead
        · next hCut => exact absurd hMark (Text.cutFirst?_eq_none_iff.1 hCut)
    | ok told =>
        obtain ⟨name, formula⟩ := told
        have hChange : config.change (.addFormula name (.text formula)) =
            config.addFormula name (.text formula) := rfl
        rw [withFormula, hRead]
        dsimp only
        rw [changed, hChange]
        cases hAdd : config.addFormula name (.text formula) with
        | error refusal =>
            obtain ⟨message, hMessage⟩ := exists_message_of_addFormula hAdd
            simp only [hMessage, Option.elim_some]
            exact .refused hMark message
        | ok config' =>
            cases hFault : config'.fault? with
            | none =>
                simp only [hFault, Option.elim_none]
                exact hFault
            | some cause =>
                simp only [hFault, Option.elim_some]
                rcases Configuration.cases_of_fault? hFault with ⟨rfl, hLong⟩ |
                  ⟨-, -, column, hColumn, hFormula⟩
                · exact .tooMany hMark hRead hAdd hLong
                · have hTexts := (Configuration.fault?_eq_none_iff.1 h).2
                  exact absurd (hasTextFormulas_of_addFormula hTexts hAdd column hColumn) hFormula
  · rw [withFormula_of_not_mem hMark]
    exact .unmarked hMark

/-! ## The stages before the formulas -/

/-- The configuration with the stages of all arguments but the formulas. -/
def withStages (options : Options) (config : Configuration) : Except Stop Configuration := do
  let filtered ← options.filters.foldlM withFilter config
  let sorted ← withSort filtered options.sort
  let aggregated ← withAggregation sorted options.aggregate
  withPivot aggregated options.pivot

theorem endsIn_withStages (options : Options) (h : config.fault? = none) :
    EndsIn IsInvalid (withStages options config) := by
  refine (endsIn_foldlM (fun text config => endsIn_withFilter text) options.filters h).bind ?_
  intro filtered hFiltered
  refine (endsIn_withSort options.sort hFiltered).bind fun sorted hSorted => ?_
  refine (endsIn_withAggregation options.aggregate hSorted).bind fun aggregated hAggregated => ?_
  exact endsIn_withPivot options.pivot hAggregated

/-- The configuration of the file with the stages of all arguments but the formulas. -/
def staged (files : Files) (options : Options) : Except Stop Configuration :=
  baseConfiguration files options >>= withStages options

theorem built_eq_staged (files : Files) (options : Options) :
    built files options =
      (staged files options >>= options.formulas.foldlM (withFormula options.file)).map
        Pipeline.ofConfiguration := by
  rw [built_eq]
  unfold staged withArguments withStages
  simp only [bind_assoc]

/-! ## The configuration file -/

theorem fileRecord_cases (files : Files) (name : String) :
    (∃ text record, files.lookup name = some (.text text) ∧
      Json.document (Json.fileChars text) = .ok record) ∨
    (∃ text, files.lookup name = some (.text text) ∧
      Json.document (Json.fileChars text) = .error .tooDeep ∧
      fileRecord files name = .error (.source (.fault .tooDeep))) ∨
    ∃ stop, IsInvalid stop ∧ fileRecord files name = .error stop := by
  unfold fileRecord
  cases files.lookup name with
  | none => exact .inr (.inr ⟨_, ⟨_, rfl⟩, rfl⟩)
  | some content =>
      cases content with
      | text text =>
          cases hDocument : Json.document (Json.fileChars text) with
          | ok record => exact .inl ⟨text, record, rfl, hDocument⟩
          | error e =>
              simp only [hDocument]
              cases e with
              | tooDeep => exact .inr (.inl ⟨text, rfl, hDocument, rfl⟩)
              | _ => exact .inr (.inr ⟨_, ⟨_, rfl⟩, rfl⟩)
      | columnar table => exact .inr (.inr ⟨_, ⟨_, rfl⟩, rfl⟩)
      | workbook sheets => exact .inr (.inr ⟨_, ⟨_, rfl⟩, rfl⟩)

theorem baseConfiguration_of_error {name : String} {stop : Stop}
    (hName : given options.config = some name) (h : fileRecord files name = .error stop) :
    baseConfiguration files options = .error stop := by
  rw [baseConfiguration, hName]
  show (fileRecord files name >>= _) = _
  rw [h]
  rfl

/-- A run starts from a record, or it stops at its configuration file. -/
theorem startsFrom_or_stops (files : Files) (options : Options) :
    (∃ record, StartsFrom files options record) ∨
      ∃ stop, (IsInvalid stop ∨ UnreportedRun files options stop) ∧
        baseConfiguration files options = .error stop := by
  cases hName : given options.config with
  | none => exact .inl ⟨_, .nothing hName⟩
  | some name =>
      rcases fileRecord_cases files name with ⟨text, record, hFile, hDocument⟩ |
        ⟨text, hFile, hDocument, hRecord⟩ | ⟨stop, hInvalid, hRecord⟩
      · exact .inl ⟨record, .file hName hFile hDocument⟩
      · exact .inr ⟨_, .inr (.nested hName hFile hDocument),
          baseConfiguration_of_error hName hRecord⟩
      · exact .inr ⟨stop, .inl hInvalid, baseConfiguration_of_error hName hRecord⟩

theorem endsIn_baseConfiguration (files : Files) (options : Options) :
    EndsIn (fun stop => IsInvalid stop ∨ UnreportedRun files options stop)
      (baseConfiguration files options) := by
  rcases startsFrom_or_stops files options with ⟨record, hStart⟩ | ⟨stop, hStop, hBase⟩
  · rw [hStart.baseConfiguration_eq]
    unfold changed
    cases hRecord : Configuration.empty.change (.replace record) with
    | error refusal =>
        cases hMessage : refusal.message? with
        | some message => exact .inl ⟨message, by rw [hMessage]; rfl⟩
        | none =>
            simp only [hMessage, Option.elim_none]
            exact .inr (.record hStart (Pipeline.unreported_of_refused hRecord hMessage))
    | ok config =>
        cases hFault : config.fault? with
        | none =>
            simp only [hFault, Option.elim_none]
            exact hFault
        | some cause =>
            simp only [hFault, Option.elim_some]
            exact .inr (.record hStart (Pipeline.unreported_of_fault hRecord hFault))
  · rw [hBase]
    exact hStop

theorem endsIn_staged (files : Files) (options : Options) :
    EndsIn (fun stop => IsInvalid stop ∨ UnreportedRun files options stop)
      (staged files options) :=
  (endsIn_baseConfiguration files options).bind fun _ hFault =>
    (endsIn_withStages options hFault).mono fun _ => .inl

/-- A record that ends in an error that is not reported stops the run that starts from it. -/
theorem baseConfiguration_of_unreported {record : Cell} {e : PipelineError}
    (hStart : StartsFrom files options record) (h : Unreported record e) :
    baseConfiguration files options = .error (.pipeline e) := by
  have hEnd := Pipeline.ofRecord_of_unreported h
  have hChange : Configuration.empty.change (.replace record) = Configuration.ofRecord record := rfl
  rw [hStart.baseConfiguration_eq, changed, hChange]
  rw [Pipeline.ofRecord_eq] at hEnd
  cases hRecord : Configuration.ofRecord record with
  | error refusal =>
      rw [hRecord] at hEnd
      cases hEnd
      cases h <;> rfl
  | ok config =>
      rw [hRecord] at hEnd
      cases hFault : config.fault? with
      | none =>
          simp only [hFault] at hEnd
          cases hEnd
      | some cause =>
          simp only [hFault, Option.map_some, Option.some.injEq] at hEnd
          rw [← hEnd]
          simp only [hFault, Option.elim_some]

/-! ## The formulas -/

/-- A list of arguments for formulas stops at one of them, with those before it accepted. -/
theorem exists_formula_of_error {file : String} {texts : List String} {stop : Stop}
    (h : config.fault? = none) (hStop : texts.foldlM (withFormula file) config = .error stop) :
    ∃ front text back before, texts = front ++ text :: back ∧
      front.foldlM (withFormula file) config = .ok before ∧
      FormulaStop before file text stop := by
  obtain ⟨front, text, back, before, hSplit, hFront, hError⟩ := foldlM_eq_error_iff.1 hStop
  have hBefore : EndsIn (fun _ => True) (front.foldlM (withFormula file) config) :=
    endsIn_foldlM (fun text _ hFault => (endsIn_withFormula file text hFault).mono fun _ _ => trivial)
      front h
  rw [hFront] at hBefore
  have hEnd := endsIn_withFormula file text hBefore
  rw [hError] at hEnd
  exact ⟨front, text, back, before, hSplit, hFront, hEnd⟩

/-! ## Reports -/

theorem built_eq_ok_iff_exists {p : Pipeline} : built files options = .ok p ↔ ∃ config whole,
    staged files options = .ok config ∧
      options.formulas.foldlM (withFormula options.file) config = .ok whole ∧
      p = Pipeline.ofConfiguration whole := by
  rw [built_eq_staged]
  cases staged files options with
  | error stop => exact iff_of_false nofun nofun
  | ok config =>
      show (options.formulas.foldlM (withFormula options.file) config).map _ = _ ↔ _
      cases hWhole : options.formulas.foldlM (withFormula options.file) config <;>
        simp [Except.map, hWhole, eq_comm]

theorem built_eq_error_iff {stop : Stop} : built files options = .error stop ↔
    staged files options >>= options.formulas.foldlM (withFormula options.file) = .error stop := by
  rw [built_eq_staged]
  cases staged files options >>= options.formulas.foldlM (withFormula options.file) <;>
    simp [Except.map]

/-- With the arguments up to one that is not accepted, the run would build a pipeline. -/
theorem built_front {front : List String} {whole : Configuration}
    (hStaged : staged files options = .ok config)
    (hFront : front.foldlM (withFormula options.file) config = .ok whole) :
    built files { options with formulas := front } = .ok (Pipeline.ofConfiguration whole) :=
  built_eq_ok_iff_exists.2 ⟨config, whole, hStaged, hFront, rfl⟩

/-- There are four ways in which building a pipeline can end. -/
theorem built_cases (files : Files) (options : Options) :
    (∃ p, built files options = .ok p) ∨
      (∃ message, built files options = .error (invalidStop message)) ∨
      (∃ stop, built files options = .error stop ∧ UnreportedRun files options stop) ∨
      ∃ message, built files options = .error (notLoadedStop options.file message) := by
  have hStaged := endsIn_staged files options
  cases hCase : staged files options with
  | error stop =>
      have hBuilt : built files options = .error stop := by
        rw [built_eq_error_iff, hCase]
        rfl
      rw [hCase] at hStaged
      rcases hStaged with ⟨message, rfl⟩ | hUnreported
      · exact .inr (.inl ⟨message, hBuilt⟩)
      · exact .inr (.inr (.inl ⟨stop, hBuilt, hUnreported⟩))
  | ok config =>
      rw [hCase] at hStaged
      cases hResult : options.formulas.foldlM (withFormula options.file) config with
      | ok whole => exact .inl ⟨_, built_eq_ok_iff_exists.2 ⟨config, whole, hCase, hResult, rfl⟩⟩
      | error stop =>
          have hBuilt : built files options = .error stop := by
            rw [built_eq_error_iff, hCase]
            exact hResult
          obtain ⟨front, text, back, before, hSplit, hFront, hStop⟩ :=
            exists_formula_of_error hStaged hResult
          cases hStop with
          | unmarked hMark => exact .inr (.inr (.inr ⟨_, hBuilt⟩))
          | refused hMark message => exact .inr (.inl ⟨message, hBuilt⟩)
          | tooMany hMark hRead hAdd hLong =>
              exact .inr (.inr (.inl
                ⟨_, hBuilt, .chain hSplit (built_front hCase hFront) hRead hAdd hLong⟩))

/-- Each run that is listed as one that reports nothing ends as it is listed. -/
theorem built_of_unreportedRun {stop : Stop} (h : UnreportedRun files options stop) :
    built files options = .error stop := by
  have hBase : ∀ {stop : Stop}, baseConfiguration files options = .error stop →
      built files options = .error stop := by
    intro stop hStop
    rw [built_eq, hStop]
    rfl
  cases h with
  | @nested name text hName hFile hDocument =>
      refine hBase (baseConfiguration_of_error hName ?_)
      rw [fileRecord, hFile]
      simp only [hDocument]
      rfl
  | record hStart hUnreported => exact hBase (baseConfiguration_of_unreported hStart hUnreported)
  | @chain front back text name formula p config' hSplit hFront hRead hAdd hLong =>
      obtain ⟨config, whole, hStaged, hWhole, rfl⟩ := built_eq_ok_iff_exists.1 hFront
      have hStop := foldlM_eq_error_iff.2
        ⟨front, text, back, whole, rfl, hWhole, withFormula_of_long hRead hAdd hLong⟩
      have hSame : staged files options = .ok config := hStaged
      rw [built_eq_error_iff, hSame, hSplit]
      exact hStop

/-- Building ends like the loading of a table exactly if an argument for a formula has no equals
sign and the description up to it can be used. -/
theorem built_notLoaded_iff :
    (∃ message, built files options = .error (notLoadedStop options.file message)) ↔
      ∃ front text back p, options.formulas = front ++ text :: back ∧ '=' ∉ text.toList ∧
        built files { options with formulas := front } = .ok p := by
  constructor
  · rintro ⟨message, hStop⟩
    have hStaged := endsIn_staged files options
    rw [built_eq_error_iff] at hStop
    cases hCase : staged files options with
    | error stop =>
        rw [hCase] at hStaged hStop
        cases hStop
        rcases hStaged with hInvalid | ⟨⟨⟩⟩
        exact absurd hInvalid (not_isInvalid_notLoadedStop _ _)
    | ok config =>
        rw [hCase] at hStaged hStop
        obtain ⟨front, text, back, before, hSplit, hFront, hEnd⟩ :=
          exists_formula_of_error hStaged hStop
        generalize hReport : notLoadedStop options.file message = stop at hEnd
        cases hEnd with
        | unmarked hMark => exact ⟨front, text, back, _, hSplit, hMark, built_front hCase hFront⟩
        | refused hMark other => exact absurd ⟨other, hReport⟩ (not_isInvalid_notLoadedStop _ _)
        | tooMany => cases hReport
  · rintro ⟨front, text, back, p, hSplit, hMark, hBuilt⟩
    obtain ⟨config, whole, hStaged, hWhole, rfl⟩ := built_eq_ok_iff_exists.1 hBuilt
    have hStop := foldlM_eq_error_iff.2 ⟨front, text, back, whole, rfl, hWhole,
      @withFormula_of_not_mem whole options.file text hMark⟩
    have hSame : staged files options = .ok config := hStaged
    refine ⟨formulaMessage text, ?_⟩
    rw [built_eq_error_iff, hSame, hSplit]
    exact hStop

/-- Records with a name or a formula of another kind, which pass all checks but the last ones. -/
def recordOf (name formula : Cell) : Cell :=
  .record [("formulas", .list [.record [("name", name), ("formula", formula)]])]

/-- An argument for a formula that has no equals sign. -/
def optionsWithoutMark : Options := { file := "s.json", formulas := ["abc"] }

end CommandLine

end TableFlow
