import TableFlow.CommandLine.Arguments
import TableFlow.CommandLine.Output
import TableFlow.CommandLine.StageText
import TableFlow.TextTable

/-!
# Running the command line

A run reads a table, transforms it by the stages that a configuration file and the arguments give,
and shows the rows or writes them to a file. Everything a run does is computed from the arguments
and the contents of the files: what it shows, its notices, and the file it writes.
-/

namespace TableFlow.CommandLine

/-- How a run stops before its end. -/
inductive Stop where
  /-- A message is shown. -/
  | message (text : String)
  /-- An error that no message is made for. -/
  | source (e : SourceError)
  | pipeline (e : PipelineError)
  | output (e : OutputError)

/-- A step of a run: it collects notices and may stop the run. -/
abbrev Step := ExceptT Stop (StateM (List Notice))

/-- Adds notices. -/
def report (notices : List Notice) : Step Unit := modify (· ++ notices)

/-- Stops with a message about a configuration. -/
def invalid {α : Type} (message : String) : Step α :=
  throw (.message ("Invalid pipeline, " ++ message))

/-- Stops with a message about the file that is loaded. -/
def notLoaded {α : Type} (options : Options) (message : String) : Step α :=
  throw (.message ("Unable to load " ++ options.file ++ ", " ++ message))

/-- Goes on with the pipeline of an edit. What is refused is invalid, and failures are shown by
`shown`, if they have a message. -/
def settle (shown : String → Step Pipeline) (outcome : Pipeline.Outcome) : Step Pipeline :=
  match outcome with
  | (p, none) => pure p
  | (_, some e) =>
      match e, e.message? with
      | .refused _, some message => invalid message
      | .fault _, some message => shown message
      | _, none => throw (.pipeline e)

/-- Changes the configuration. -/
def change (shown : String → Step Pipeline) (p : Pipeline) (c : Change) : Step Pipeline := do
  report (p.changeNotices c)
  settle shown (p.change c)

/-- Goes on with what an argument tells. -/
def orInvalid {α : Type} : Except String α → Step α
  | .ok value => pure value
  | .error message => invalid message

/-- An optional argument that is not empty. -/
def given (argument : Option String) : Option String := argument.filter (!·.isEmpty)

/-- Stops with a message about the configuration file. -/
def unreadable {α : Type} (name message : String) : Step α :=
  invalid ("Unable to read " ++ name ++ ", " ++ message)

/-- The configuration file as a record. One that is nested too deeply has no message. -/
def readConfig (files : Files) (name : String) : Step Cell :=
  match files.lookup name with
  | none => unreadable name (missingFileMessage name)
  | some (.text s) =>
      let chars := Json.fileChars s
      match Json.document chars with
      | .ok record => pure record
      | .error e =>
          match e.message? chars with
          | some message => unreadable name message
          | none => throw (.source (.fault .tooDeep))
  | some _ => unreadable name "the file is no text"

/-- The pipeline of the configuration file. -/
def basePipeline (files : Files) (options : Options) : Step Pipeline :=
  match given options.config with
  | some name => do
      let record ← readConfig files name
      change (notLoaded options) Pipeline.empty (.replace record)
  | none => pure Pipeline.empty

/-- Adds the filter of an argument. -/
def addFilter (p : Pipeline) (text : String) : Step Pipeline := do
  let f ← orInvalid (StageText.readFilter text)
  change invalid p (.addFilter (.ofFilter f))

/-- Adds the keys of arguments to those that are there. -/
def addSort (p : Pipeline) (texts : List String) : Step Pipeline :=
  if texts.isEmpty then pure p
  else change invalid p (.setSort (p.config.sort ++ (texts.map StageText.readSort).map .ofKey))

/-- Sets the aggregation of an argument. -/
def setAggregation (p : Pipeline) (argument : Option String) : Step Pipeline :=
  match given argument with
  | some text => do
      let aggregation ← orInvalid (StageText.readAggregation text)
      change invalid p (.setAggregation (some (.ofAggregation aggregation)))
  | none => pure p

/-- Sets the pivot of an argument. -/
def setPivot (p : Pipeline) (argument : Option String) : Step Pipeline :=
  match given argument with
  | some text => do
      let layout ← orInvalid (StageText.readPivot text)
      change invalid p (.setPivot (some (.ofPivot layout)))
  | none => pure p

/-- Adds the computed column of an argument. -/
def addFormula (options : Options) (p : Pipeline) (text : String) : Step Pipeline :=
  match StageText.readFormula text with
  | .ok (name, formula) => change (notLoaded options) p (.addFormula name (.text formula))
  | .error message => notLoaded options message

/-- The pipeline of the configuration file and the arguments. Filters, keys and formulas are added
to those of the file, an aggregation or a pivot takes the place of the one in the file. -/
def buildPipeline (files : Files) (options : Options) : Step Pipeline := do
  let base ← basePipeline files options
  let filtered ← options.filters.foldlM addFilter base
  let sorted ← addSort filtered options.sort
  let aggregated ← setAggregation sorted options.aggregate
  let pivoted ← setPivot aggregated options.pivot
  options.formulas.foldlM (addFormula options) pivoted

/-- Loads the table of the file. -/
def load (files : Files) (options : Options) (source : Source) (p : Pipeline) : Step Pipeline :=
  match source.read files with
  | .ok data => do
      report (p.loadNotices data.rows (some data.columns))
      settle (notLoaded options) (p.load data.rows (some data.columns))
  | .error e =>
      match e.message? with
      | some message => notLoaded options message
      | none => throw (.source e)

/-- The notices about the configuration of a run. -/
def describeNotices (p : Pipeline) : List Notice :=
  p.config.describe.map fun line => ⟨.info, "tabshaper.commands.fshape", line⟩

/-- The table of the profiles, with an empty line after it. -/
def profileLines (options : Options) (p : Pipeline) : Step (List String) :=
  if options.stats then
    match TextTable.profileTable p.profiles with
    | .ok table => pure [table, ""]
    | .error cause => throw (.pipeline (.fault cause))
  else
    pure []

/-- The message about an error of writing, if there is one. -/
def OutputError.message? : OutputError → Option String
  | .unsupported name => some ("Unsupported output file type: " ++ name)
  | .nested type => some ("Unsupported Type:" ++ type)
  | .store (.title message) => some message
  | .store (.fault cause) | .fault cause => cause.message?
  | .store .illegalCharacter => none

/-- Shows the rows or writes them to a file; gives the lines to show and the file. -/
def finish (options : Options) (p : Pipeline) :
    Step (List String × Option (String × FileContent)) :=
  match given options.output with
  | some name => do
      report (p.writeNotices name)
      match p.write name with
      | .ok content =>
          pure (["Written " ++ String.ofList (Decimal.numeral p.transformed.length) ++
            " rows to " ++ name], some (name, content))
      | .error e =>
          match OutputError.message? e with
          | some message => pure (["Unable to write " ++ name ++ ", " ++ message], none)
          | none => throw (.output e)
  | none =>
      match TextTable.table p.transformed p.columns options.maxRows with
      | .ok table => pure ([table], none)
      | .error cause => throw (.pipeline (.fault cause))

/-- The steps of a run: the lines to show and the file to write. -/
def steps (files : Files) (options : Options) :
    Step (List String × Option (String × FileContent)) := do
  match Source.ofName? options.file with
  | none => notLoaded options (Source.unsupportedMessage options.file)
  | some source =>
      let built ← buildPipeline files options
      let p ← load files options source built
      let profiles ← profileLines options p
      report (describeNotices p)
      let (lines, written) ← finish options p
      pure (profiles ++ lines, written)

/-- What a run does. -/
structure Outcome where
  /-- The lines that are shown. -/
  lines : List String
  /-- The notices that are shown. -/
  notices : List Notice
  /-- The file that is written. -/
  written : Option (String × FileContent)

/-- How a run ends. -/
inductive Ending where
  | done (outcome : Outcome)
  | exit (e : Exit)
  /-- The run fails without a message. -/
  | failed (stop : Stop)

/-- Runs the command line. -/
def run (files : Files) (argv : List String) : Ending :=
  match readArguments argv with
  | .error e => .exit e
  | .ok options =>
      let (result, notices) := (steps files options).run.run []
      let shown := notices.filter (Notice.isShown options.verbose)
      match result with
      | .ok (lines, written) => .done ⟨lines, shown, written⟩
      | .error (.message text) => .done ⟨[text], shown, none⟩
      | .error stop => .failed stop

end TableFlow.CommandLine
