import TableFlow.Configuration.Basic

/-!
# Configurations as records

A configuration is stored as a record of lists, texts and missing cells, from which
`Configuration.decode` recovers it.
-/

namespace TableFlow

/-- An optional cell, missing if there is none. -/
def Cell.ofOption : Option Cell → Cell
  | some cell => cell
  | none => .missing

def FilterConfig.encode (f : FilterConfig) : Cell :=
  .record [("column", f.column), ("operator", f.operator), ("value", .text f.value),
    ("value2", .ofOption (f.value2.map .text))]

def SortConfig.encode (key : SortConfig) : Cell :=
  .record [("column", key.column), ("direction", .text key.direction.name)]

def AggregationConfig.encode (aggregation : AggregationConfig) : Cell :=
  .record [("column", aggregation.column),
    ("operation", .text (Aggregation.operationName aggregation.operation))]

def PivotConfig.encode (layout : PivotConfig) : Cell :=
  .record [("rows", .list layout.rows), ("columns", .list layout.columns),
    ("values", .list layout.values), ("aggregation", .text layout.aggregation.name)]

def FormulaColumn.encode (column : FormulaColumn) : Cell :=
  .record [("name", column.name), ("formula", column.formula)]

def Configuration.encode (config : Configuration) : Cell :=
  .record [("filters", .list (config.filters.map FilterConfig.encode)),
    ("sort", .list (config.sort.map SortConfig.encode)),
    ("aggregation", .ofOption (config.aggregation.map AggregationConfig.encode)),
    ("pivot", .ofOption (config.pivot.map PivotConfig.encode)),
    ("formulas", .list (config.formulas.map FormulaColumn.encode))]

end TableFlow
