import TableFlow.Cell.Literal
import TableFlow.Text.Lines

/-!
# Literals on several lines

The literal of a list of records goes on one line if it fits. If it does not, each record starts a
line, and a record that does not fit has a line for each of its fields. A text that does not fit is
cut at the ends of its lines and then between its words, into adjacent literals.

`allowance` is what still has to follow on a line: a comma or closing brackets.
-/

namespace TableFlow.WrappedLiteral

/-- The width that lines should not exceed. -/
def lineWidth : Int := 80

/-- Joins words into literals that fit. `lastWidth` is the width left for the last word. -/
def packWords (width lastWidth : Int) (current : List Char) :
    List (List Char) → List (List Char)
  | [] => if current.isEmpty then [] else [Text.quoteChars current]
  | word :: words =>
      let limit := if words.isEmpty then lastWidth else width
      let candidate := current ++ word
      if limit < (Text.quoteChars candidate).length then
        let done := if current.isEmpty then [] else [Text.quoteChars current]
        done ++ packWords width lastWidth word words
      else
        packWords width lastWidth candidate words

/-- The literals of the lines of a text. The allowance counts for the last line only. -/
def lineLiterals (width allowance : Int) : List (List Char) → List (List Char)
  | [] => []
  | line :: rest =>
      let limit := if rest.isEmpty then width - allowance else width
      let literal := Text.quoteChars line
      let own :=
        if literal.length ≤ limit then [literal] else packWords width limit [] (Text.words line)
      own ++ lineLiterals width allowance rest

/-- A text at a position in a line. -/
def textLiteral (indent : Nat) (allowance : Int) (s : String) : String :=
  let whole := Text.quoteChars s.toList
  if whole.length ≤ lineWidth - indent - allowance ∨ s.isEmpty then
    String.ofList whole
  else
    let literals := lineLiterals (lineWidth - indent) allowance (Text.lines s.toList)
    let separator := "\n" ++ String.ofList (List.replicate indent ' ')
    separator.intercalate (literals.map String.ofList)

/-- A cell at a position in a line. -/
def cellLiteral (indent : Nat) (allowance : Int) (cell : Cell) : Except Fault String :=
  match cell with
  | .text s => .ok (textLiteral indent allowance s)
  | cell => cell.literal

/-- The fields of a record, the first one at a position in a line and each other one on a line of
its own. -/
def fieldLiterals (indent : Nat) (allowance : Int) :
    List (String × Cell) → Except Fault (List String)
  | [] => .ok []
  | (name, cell) :: rest => do
      let label := Text.quote name ++ ": "
      let value ← cellLiteral (indent + label.length) (if rest.isEmpty then allowance else 1) cell
      let others ← fieldLiterals indent allowance rest
      .ok ((label ++ value) :: others)

/-- Literals one below the other, at a position in a line. -/
def stacked (indent : Nat) (literals : List String) : String :=
  (",\n" ++ String.ofList (List.replicate indent ' ')).intercalate literals

/-- A record at a position in a line. -/
def recordLiteral (indent : Nat) (allowance : Int) (fields : List (String × Cell)) :
    Except Fault String := do
  let whole ← Cell.literal (.record fields)
  if whole.length ≤ lineWidth - indent - allowance then
    .ok whole
  else
    let literals ← fieldLiterals (indent + 1) (allowance + 1) fields
    .ok ("\x7b" ++ stacked (indent + 1) literals ++ "\x7d")

/-- A list of records. -/
def records (rs : List (List (String × Cell))) : Except Fault String := do
  let whole ← Cell.literal (.list (rs.map .record))
  if whole.length ≤ lineWidth then
    .ok whole
  else
    let literals ← rs.mapM (recordLiteral 1 1)
    .ok ("[" ++ stacked 1 literals ++ "]")

end TableFlow.WrappedLiteral
