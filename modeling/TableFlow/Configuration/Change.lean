import TableFlow.Configuration.Decode

/-!
# Changes of a configuration

A change gives a new configuration or is refused. The formulas of a configuration that is reached
by changes have names, all of them different, and none of them is empty. Names are told apart as
keys, which lists and records are not: that one of the formulas of a whole configuration has such a
name is the one refusal without a message.
-/

namespace TableFlow

/-- Why a change is refused. -/
inductive Refusal where
  | noFilter (index : Int)
  | emptyFormula
  | repeatedName
  /-- A whole configuration cannot be read. -/
  | unreadable (e : ConfigError)
  /-- A field of a filter cannot be changed as asked. -/
  | field (e : ConfigError)
  /-- The name of a formula is a list or a record. -/
  | nameNotKey
deriving DecidableEq, Repr

/-- The message of a refusal that is reported. -/
def Refusal.message? : Refusal → Option String
  | .noFilter index =>
      some ("There is no filter at position " ++ String.ofList (Decimal.signedNumeral index))
  | .emptyFormula => some "Please enter both formula name and expression"
  | .repeatedName => some "Formula name already exists"
  | .unreadable .tooDeep | .field .tooDeep => none
  | .unreadable e => some ("Invalid pipeline configuration: " ++ e.message)
  | .field e => some e.message
  | .nameNotKey => none

/-- A change of a configuration. -/
inductive Change where
  | addFilter (f : FilterConfig)
  | updateFilter (index : Int) (changes : List (String × Cell))
  | removeFilter (index : Int)
  | clearFilters
  /-- Goes from no sorting by a column to ascending to descending to no sorting. -/
  | toggleSort (column : String)
  | setSort (keys : List SortConfig)
  | clearSort
  | setAggregation (aggregation : Option AggregationConfig)
  | setPivot (layout : Option PivotConfig)
  | addFormula (name : String) (formula : Cell)
  | removeFormula (name : String)
  /-- Replaces all stages by those that a record tells. -/
  | replace (record : Cell)

namespace Configuration

/-- The position of a filter, if there is one at the index. -/
def filterPosition (config : Configuration) (index : Int) : Except Refusal Nat :=
  if 0 ≤ index ∧ index < config.filters.length then .ok index.toNat else .error (.noFilter index)

def updateFilter (config : Configuration) (index : Int) (changes : List (String × Cell)) :
    Except Refusal Configuration := do
  let position ← config.filterPosition index
  match config.filters[position]? with
  | none => .error (.noFilter index)
  | some f =>
      match f.update changes with
      | .error e => .error (.field e)
      | .ok f => .ok { config with filters := config.filters.set position f }

def removeFilter (config : Configuration) (index : Int) : Except Refusal Configuration := do
  let position ← config.filterPosition index
  .ok { config with filters := config.filters.eraseIdx position }

/-- The keys after sorting by a column was toggled; the first key of the column decides. -/
def toggleSort (keys : List SortConfig) (column : String) : List SortConfig :=
  match keys.find? (·.column.text? == some column) with
  | none => keys ++ [⟨.text column, .ascending⟩]
  | some ⟨_, .ascending⟩ =>
      keys.map fun key =>
        if key.column.text? = some column then ⟨.text column, .descending⟩ else key
  | some ⟨_, .descending⟩ => keys.filter (·.column.text? != some column)

/-- Tells if a formula lacks its name or its text. -/
def lacksPart (column : FormulaColumn) : Bool := column.name.isFalse || column.formula.isFalse

/-- The names of the formulas as keys, `none` for those that are no keys. -/
def formulaKeys (config : Configuration) : List (Option Cell.Key) :=
  config.formulas.map (·.name.key?)

def addFormula (config : Configuration) (name : String) (formula : Cell) :
    Except Refusal Configuration :=
  if lacksPart ⟨.text name, formula⟩ then .error .emptyFormula
  else if (Cell.text name).key? ∈ config.formulaKeys then .error .repeatedName
  else .ok { config with formulas := config.formulas ++ [⟨.text name, formula⟩] }

/-- Reads a whole configuration and checks its formulas. -/
def ofRecord (record : Cell) : Except Refusal Configuration :=
  match decode record with
  | .error e => .error (.unreadable e)
  | .ok config =>
      if config.formulas.any lacksPart then .error .emptyFormula
      else if none ∈ config.formulaKeys then .error .nameNotKey
      else if ¬ config.formulaKeys.Nodup then .error .repeatedName
      else .ok config

/-- The configuration after a change. -/
def change (config : Configuration) : Change → Except Refusal Configuration
  | .addFilter f => .ok { config with filters := config.filters ++ [f] }
  | .updateFilter index changes => config.updateFilter index changes
  | .removeFilter index => config.removeFilter index
  | .clearFilters => .ok { config with filters := [] }
  | .toggleSort column => .ok { config with sort := toggleSort config.sort column }
  | .setSort keys => .ok { config with sort := keys }
  | .clearSort => .ok { config with sort := [] }
  | .setAggregation aggregation => .ok { config with aggregation }
  | .setPivot pivot => .ok { config with pivot }
  | .addFormula name formula => config.addFormula name formula
  | .removeFormula name =>
      .ok { config with formulas := config.formulas.filter (·.name.text? != some name) }
  | .replace record => ofRecord record

end Configuration

end TableFlow
