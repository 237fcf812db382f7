import TableFlow.Configuration.Change
import TableFlow.Configuration.Encode
import TableFlow.Profile

/-!
# Pipelines

A pipeline holds the rows of a source and a configuration, and the rows that the configured stages
give for them. Every edit changes the source or the configuration and then computes the rows again.
An edit that is refused changes nothing. If computing the rows fails, the new source or the new
configuration stays, and so do the rows that were computed before.
-/

namespace TableFlow

/-- A pipeline. -/
structure Pipeline where
  rows : List Row := []
  sourceColumns : List String := []
  profiles : List Profile := []
  config : Configuration := {}
  transformed : List Row := []

/-- Why an edit did not succeed. -/
inductive PipelineError where
  | refused (refusal : Refusal)
  | fault (cause : Fault)
deriving DecidableEq, Repr

/-- The message of an error that is reported. -/
def PipelineError.message? : PipelineError → Option String
  | .refused refusal => refusal.message?
  | .fault cause => cause.message?

/-- An edit of a pipeline. -/
inductive Edit where
  /-- Replaces the source; without columns, the columns are those of the rows. -/
  | load (rows : List Row) (columns : Option (List String))
  | change (change : Change)
  /-- Computes the rows again. -/
  | recompute

namespace Pipeline

/-- The pipeline without a source and without stages. -/
def empty : Pipeline := {}

instance : Inhabited Pipeline := ⟨empty⟩

/-- What an edit leaves behind, and how it failed if it did. -/
abbrev Outcome := Pipeline × Option PipelineError

/-- The columns of the computed rows, those of the source if there are no rows. -/
def columns (p : Pipeline) : List String :=
  if p.transformed.isEmpty then p.sourceColumns else columnsOf p.transformed

/-- Computes the rows. -/
def recompute (p : Pipeline) : Outcome :=
  match p.config.run p.sourceColumns p.rows with
  | .ok transformed => ({ p with transformed }, none)
  | .error cause => (p, some (.fault cause))

/-- Replaces the source and computes profiles and rows. -/
def load (p : Pipeline) (rows : List Row) (columns : Option (List String)) : Outcome :=
  let sourceColumns := columns.getD (columnsOf rows)
  match Profile.ofColumns rows sourceColumns with
  | .error cause => ({ p with rows, sourceColumns }, some (.fault cause))
  | .ok profiles => recompute { p with rows, sourceColumns, profiles }

/-- Changes the configuration and computes the rows. -/
def change (p : Pipeline) (change : Change) : Outcome :=
  match p.config.change change with
  | .error refusal => (p, some (.refused refusal))
  | .ok config => recompute { p with config }

/-- Performs an edit. -/
def edit (p : Pipeline) : Edit → Outcome
  | .load rows columns => p.load rows columns
  | .change c => p.change c
  | .recompute => p.recompute

/-- A pipeline without a source that is configured by a record. -/
def ofRecord (record : Cell) : Outcome := empty.change (.replace record)

/-- The plan of a pipeline as it is shown. -/
def planText (p : Pipeline) : String := p.config.planText p.sourceColumns p.rows

def text (p : Pipeline) : String := "Pipeline(" ++ p.planText ++ ")"

/-- The part of the program that the notices about pipelines come from. -/
def noticeOrigin : String := "tabshaper.pipeline"

/-- The notices of computing the rows. -/
def recomputeNotices (p : Pipeline) : List Notice :=
  let before : Notice := ⟨.debug, noticeOrigin, "Recomputing " ++ p.planText⟩
  let own := p.config.notices p.sourceColumns p.rows
  match p.config.run p.sourceColumns p.rows with
  | .error _ => before :: own
  | .ok transformed =>
      let count (rows : List Row) : String := String.ofList (Decimal.numeral rows.length)
      before :: (own ++ [⟨.debug, noticeOrigin,
        "Transformed " ++ count p.rows ++ " rows into " ++ count transformed ++ " rows"⟩])

/-- The notices of loading a source. -/
def loadNotices (p : Pipeline) (rows : List Row) (columns : Option (List String)) : List Notice :=
  let sourceColumns := columns.getD (columnsOf rows)
  match Profile.ofColumns rows sourceColumns with
  | .error _ => []
  | .ok profiles =>
      ⟨.debug, noticeOrigin,
        "Loaded " ++ String.ofList (Decimal.numeral rows.length) ++ " rows with columns " ++
          textsLiteral sourceColumns⟩ ::
        recomputeNotices { p with rows, sourceColumns, profiles }

/-- The notices of a change of the configuration. -/
def changeNotices (p : Pipeline) (change : Change) : List Notice :=
  match p.config.change change with
  | .error _ => []
  | .ok config => recomputeNotices { p with config }

end Pipeline

end TableFlow
