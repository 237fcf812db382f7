import TableFlow.Configuration.Basic

/-!
# Reading configurations

Configurations are read from cells, which come from documents that users write, so every shape can
occur. The parts of a configuration are read in a fixed order, and the first error counts.
-/

namespace TableFlow

/-- Why a cell is not a configuration. -/
inductive ConfigError where
  /-- A record lacks a field. -/
  | missingField (name : String)
  /-- A record is expected. -/
  | notRecord (message : String)
  /-- Another kind of cell is expected. -/
  | wrongKind (message : String)
  /-- A field holds a value that is not allowed. -/
  | notAllowed (message : String)
  /-- The value of a field is nested too deeply to be written as a text. -/
  | tooDeep
deriving DecidableEq, Repr

/-- The message of an error; nesting that is too deep is not reported. -/
def ConfigError.message : ConfigError → String
  | .missingField name => Text.quote name
  | .notRecord message | .wrongKind message | .notAllowed message => message
  | .tooDeep => ""

namespace Configuration

/-- The fields of a record, of which any may be absent. -/
def fields (cell : Cell) : Except ConfigError (List (String × Cell)) :=
  match cell with
  | .record entries => .ok entries
  | cell => .error (.notRecord ("'" ++ cell.kindName ++ "' object has no attribute 'get'"))

/-- The fields of a record that is asked for one of them first. -/
def indexedFields (cell : Cell) : Except ConfigError (List (String × Cell)) :=
  match cell with
  | .record entries => .ok entries
  | .list _ => .error (.wrongKind "list indices must be integers or slices, not str")
  | .text _ => .error (.wrongKind "string indices must be integers, not 'str'")
  | cell => .error (.wrongKind ("'" ++ cell.kindName ++ "' object is not subscriptable"))

/-- The cell of a field that must be there. -/
def require (entries : List (String × Cell)) (name : String) : Except ConfigError Cell :=
  match entries.lookup name with
  | some cell => .ok cell
  | none => .error (.missingField name)

/-- The elements of a cell: of a list its cells, of a text its characters, of a record its names. -/
def elements (cell : Cell) : Except ConfigError (List Cell) :=
  match cell with
  | .list cells => .ok cells
  | .text s => .ok (s.toList.map fun c => .text c.toString)
  | .record entries => .ok (entries.map fun (name, _) => .text name)
  | cell => .error (.wrongKind ("'" ++ cell.kindName ++ "' object is not iterable"))

/-- The text of a form for a cell that a configuration is read with. -/
def written (form : Cell → Except Fault String) (cell : Cell) : Except ConfigError String :=
  if callLimit < cell.nesting then .error .tooDeep
  else (form cell).mapError fun fault => .notAllowed (fault.message?.getD "")

/-- A value that is one of the choices. -/
def choice {α : Type} (ofName? : String → Option α) (what : String) (names : List String)
    (cell : Cell) : Except ConfigError α := do
  let chosen := match cell with
    | .text s => ofName? s
    | _ => none
  match chosen with
  | some value => .ok value
  | none =>
      let shown ← written Cell.literal cell
      .error (.notAllowed (what ++ " must be one of " ++
        PivotConfig.namesLiteral (names.map .text) ++ ", got " ++ shown))

end Configuration

open TableFlow.Configuration (fields indexedFields require elements written choice)

/-- Reads a filter. Values are kept as texts; a second value that is missing is none. -/
def FilterConfig.ofFields (entries : List (String × Cell)) : Except ConfigError FilterConfig := do
  let column ← require entries "column"
  let operator ← require entries "operator"
  let value ← written Cell.toText ((entries.lookup "value").getD .missing)
  let value2 ← match (entries.lookup "value2").getD .missing with
    | .missing => .ok none
    | cell => (written Cell.toText cell).map some
  .ok { column, operator, value, value2 }

def FilterConfig.decode (cell : Cell) : Except ConfigError FilterConfig := do
  let entries ← fields cell
  FilterConfig.ofFields entries

/-- The names of the fields of a filter. -/
def FilterConfig.fieldNames : List String := ["column", "operator", "value", "value2"]

/-- The message for a field that a filter does not have. -/
def FilterConfig.unknownField (name : String) : ConfigError :=
  .wrongKind ("FilterConfig.__init__() got an unexpected keyword argument " ++ Text.quote name)

/-- Makes a filter from its fields; there must be no others. -/
def FilterConfig.make (entries : List (String × Cell)) : Except ConfigError FilterConfig :=
  match entries.find? fun (name, _) => name ∉ FilterConfig.fieldNames with
  | some (name, _) => .error (FilterConfig.unknownField name)
  | none =>
      match FilterConfig.ofFields entries with
      | .error (.missingField name) =>
          .error (.wrongKind ("missing required argument: " ++ Text.quote name))
      | result => result

/-- Changes one field of a filter. -/
def FilterConfig.setField (f : FilterConfig) (name : String) (cell : Cell) :
    Except ConfigError FilterConfig :=
  match name with
  | "column" => .ok { f with column := cell }
  | "operator" => .ok { f with operator := cell }
  | "value" => do
      let value ← written Cell.toText cell
      .ok { f with value }
  | "value2" =>
      match cell with
      | .missing => .ok { f with value2 := none }
      | cell => do
          let value2 ← written Cell.toText cell
          .ok { f with value2 := some value2 }
  | name => .error (FilterConfig.unknownField name)

/-- Changes fields of a filter. -/
def FilterConfig.update (f : FilterConfig) (changes : List (String × Cell)) :
    Except ConfigError FilterConfig :=
  match changes.find? fun (name, _) => name ∉ FilterConfig.fieldNames with
  | some (name, _) => .error (FilterConfig.unknownField name)
  | none => changes.foldlM (fun f (name, cell) => f.setField name cell) f

def SortConfig.decode (cell : Cell) : Except ConfigError SortConfig := do
  let entries ← indexedFields cell
  let column ← require entries "column"
  let direction ← choice Direction.ofName? "Sort direction" ["asc", "desc"]
    ((entries.lookup "direction").getD (.text "asc"))
  .ok { column, direction }

/-- Reads the operation of an aggregation. -/
def Aggregation.readOperation (cell : Cell) : Except ConfigError Reduction :=
  choice operationOfName? "Aggregation operation" (operations.map operationName) cell

def AggregationConfig.decode (cell : Cell) : Except ConfigError AggregationConfig := do
  let entries ← indexedFields cell
  let column ← require entries "column"
  let operation ← require entries "operation"
  let operation ← Aggregation.readOperation operation
  .ok { column, operation }

/-- Reads the reduction of a pivot. -/
def Pivot.readAggregation (cell : Cell) : Except ConfigError PivotOperation :=
  choice PivotOperation.ofName? "Pivot aggregation" (PivotOperation.all.map PivotOperation.name)
    cell

/-- Reads the names of columns; no columns if the field is absent. -/
def PivotConfig.decodeNames (cell : Option Cell) : Except ConfigError (List Cell) :=
  elements (cell.getD (.list []))

def PivotConfig.decode (cell : Cell) : Except ConfigError PivotConfig := do
  let entries ← fields cell
  let aggregation ← Pivot.readAggregation ((entries.lookup "aggregation").getD (.text "sum"))
  let rows ← decodeNames (entries.lookup "rows")
  let columns ← decodeNames (entries.lookup "columns")
  let values ← decodeNames (entries.lookup "values")
  .ok { rows, columns, values, aggregation }

/-- Reads a computed column. -/
def FormulaColumn.decode (cell : Cell) : Except ConfigError FormulaColumn := do
  let entries ← indexedFields cell
  let name ← require entries "name"
  let formula ← require entries "formula"
  .ok { name, formula }

/-- Reads a part of a configuration that may be absent; what is false counts as absent. -/
def Configuration.decodeOptional {α : Type} (decode : Cell → Except ConfigError α)
    (cell : Option Cell) : Except ConfigError (Option α) :=
  match cell with
  | none => .ok none
  | some cell => if cell.isFalse then .ok none else (decode cell).map some

/-- Reads a list of parts of a configuration, no parts if it is absent. -/
def Configuration.decodeList {α : Type} (decode : Cell → Except ConfigError α)
    (cell : Option Cell) : Except ConfigError (List α) := do
  let cells ← elements (cell.getD (.list []))
  cells.mapM decode

/-- Reads a configuration. All fields may be absent. -/
def Configuration.decode (cell : Cell) : Except ConfigError Configuration := do
  let entries ← fields cell
  let filters ← decodeList FilterConfig.decode (entries.lookup "filters")
  let sort ← decodeList SortConfig.decode (entries.lookup "sort")
  let aggregation ← decodeOptional AggregationConfig.decode (entries.lookup "aggregation")
  let pivot ← decodeOptional PivotConfig.decode (entries.lookup "pivot")
  let formulas ← decodeList FormulaColumn.decode (entries.lookup "formulas")
  .ok { filters, sort, aggregation, pivot, formulas }

end TableFlow
