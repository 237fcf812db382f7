import TableFlow.Cell.Basic
import TableFlow.Decimal.Whole

/-!
# Values of literal tokens

A literal is a text between quotation marks, a keyword, a whole number, or a binary64 number. A
whole number of too many digits is taken as a binary64 number. The texts between quotation marks
and the numbers that the lexer produces always have a value; other texts may have none.
-/

namespace TableFlow.Formula.Constant

/-- A text without the backslashes that escape a character; a line feed is never escaped. -/
def unescape : List Char → List Char
  | '\\' :: c :: rest => if c = '\n' then '\\' :: c :: unescape rest else c :: unescape rest
  | c :: rest => c :: unescape rest
  | [] => []

/-- The text between the quotation marks, if the first and the last character are the same mark. A
single mark is an empty text. -/
def quoted? (cs : List Char) : Option (List Char) :=
  match cs, cs.getLast? with
  | first :: rest, some last =>
      if first = last ∧ (first = '\'' ∨ first = '"') then some (unescape rest.dropLast) else none
  | _, _ => none

/-- The names of the numbers that are not finite, after the sign. -/
def special? (cs : List Char) : Option Binary64 :=
  let (negative, rest) := Decimal.spanSign cs
  let name := (String.ofList rest).toLower
  if name = "nan" then some .nan
  else if name = "inf" ∨ name = "infinity" then some (.infinite negative)
  else none

/-- The value of a number. -/
def number? (cs : List Char) : Option Cell :=
  let numeral := Decimal.dropSeparators (Decimal.trimMargins cs)
  match Decimal.wholeOfNumeral? numeral with
  | some n => some (.int n)
  | none => ((Decimal.readBinary64? numeral).or (special? numeral)).map .float

/-- The value of a literal. -/
def value? (text : String) : Option Cell :=
  match quoted? text.toList with
  | some inner => some (.text (String.ofList inner))
  | none =>
      match text with
      | "TRUE" => some (.bool true)
      | "FALSE" => some (.bool false)
      | "NULL" => some .missing
      | _ => number? text.toList

end TableFlow.Formula.Constant
