import TableFlow.Configuration.Decode

/-!
# Stages as arguments

On the command line a stage is one argument whose parts stand between colons: a filter as
`column:operator:value`, a key to sort by as `column:direction`, an aggregation as
`column:operation`, a pivot as `rows:values:aggregation`, and a computed column as
`name=expression`. An argument that has no such form gives a message.
-/

namespace TableFlow.StageText

/-- The text before the first occurrence of a mark and the text after it, which is empty if the
mark does not occur. -/
def partition (mark : Char) (cs : List Char) : List Char × List Char :=
  (Text.cutFirst? mark cs).getD (cs, [])

/-- The message for an argument of another form. -/
def formMessage (what form text : String) : String :=
  what ++ " must be in the form " ++ form ++ ", got " ++ Text.quote text

/-- Reads a filter. Only the operator `between` has a second value. -/
def readFilter (text : String) : Except String Filter :=
  match Text.cutFirst? ':' text.toList with
  | none => .error (formMessage "Filters" "COLUMN:OPERATOR:VALUE" text)
  | some (column, rest) =>
      let (operator, value) := partition ':' rest
      let column := String.ofList column
      let operator := String.ofList operator
      if operator = "between" then
        let (value, value2) := partition ':' value
        .ok { column, operator, value := String.ofList value
              value2 := some (String.ofList value2) }
      else
        .ok { column, operator, value := String.ofList value }

/-- Reads a key to sort by. What is not a direction belongs to the name of the column. -/
def readSort (text : String) : SortKey :=
  match Text.cutLast? ':' text.toList with
  | none => ⟨text, .ascending⟩
  | some (column, direction) =>
      match Direction.ofName? (String.ofList direction) with
      | some direction =>
          if column.isEmpty then ⟨text, .ascending⟩ else ⟨String.ofList column, direction⟩
      | none => ⟨text, .ascending⟩

/-- Reads an aggregation. -/
def readAggregation (text : String) : Except String Aggregation :=
  match Text.cutLast? ':' text.toList with
  | some (column@(_ :: _), operation) =>
      match Aggregation.readOperation (.text (String.ofList operation)) with
      | .ok operation => .ok ⟨String.ofList column, operation⟩
      | .error e => .error e.message
  | _ => .error (formMessage "Aggregations" "COLUMN:OPERATION" text)

/-- The names between commas, empty ones left out. -/
def readNames (cs : List Char) : List String :=
  ((Text.splitOn [','] cs).filter (!·.isEmpty)).map String.ofList

/-- Reads a pivot. -/
def readPivot (text : String) : Except String Pivot :=
  match Text.splitOn [':'] text.toList with
  | [rows, values, aggregation] =>
      match Pivot.readAggregation (.text (String.ofList aggregation)) with
      | .ok aggregation =>
          .ok { rows := readNames rows, values := readNames values, aggregation }
      | .error e => .error e.message
  | _ => .error (formMessage "Pivots" "ROWS:VALUES:AGGREGATION" text)

/-- Reads the name of a computed column and its formula, white space around them left out. -/
def readFormula (text : String) : Except String (String × String) :=
  match Text.cutFirst? '=' text.toList with
  | some (name, formula) =>
      .ok (String.ofList (Text.strip name), String.ofList (Text.strip formula))
  | none => .error (formMessage "Formulas" "NAME=EXPRESSION" text)

end TableFlow.StageText
