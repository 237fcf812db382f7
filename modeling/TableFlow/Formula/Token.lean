import TableFlow.Text.Quoted

/-!
# Tokens of the formula language
-/

namespace TableFlow.Formula

/-- The kinds of tokens. -/
inductive Kind where
  /-- The name of a column or of a function. -/
  | identifier
  /-- A number, a text between quotation marks, or a keyword that stands for a value. -/
  | literal
  | operator
  /-- A parenthesis or the comma between arguments. -/
  | punctuation
  | endOfFormula
deriving DecidableEq, Repr

/-- A token: its kind and its text. -/
structure Token where
  kind : Kind
  value : String
deriving DecidableEq, Repr

/-- The token that ends every formula. -/
def Token.endOfFormula : Token := ⟨.endOfFormula, ""⟩

instance : Inhabited Token := ⟨.endOfFormula⟩

/-- The name of a kind of tokens. -/
def Kind.name : Kind → String
  | .identifier => "IdentifierToken"
  | .literal => "LiteralToken"
  | .operator => "OperatorToken"
  | .punctuation => "PunctuationToken"
  | .endOfFormula => "EOFToken"

/-- The kind with a name. -/
def Kind.ofName? : String → Option Kind
  | "IdentifierToken" => some .identifier
  | "LiteralToken" => some .literal
  | "OperatorToken" => some .operator
  | "PunctuationToken" => some .punctuation
  | "EOFToken" => some .endOfFormula
  | _ => none

theorem Kind.ofName?_name (kind : Kind) : Kind.ofName? kind.name = some kind := by
  cases kind <;> rfl

/-- A token as it is shown. -/
def Token.describe (token : Token) : String :=
  token.kind.name ++ "(" ++ Text.quote token.value ++ ")"

end TableFlow.Formula
