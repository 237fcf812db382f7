import TableFlow.Cell.Basic

/-!
# Expressions

Operators are kept by their symbols, since an expression may also be given directly, with symbols
that the evaluation does not know.
-/

namespace TableFlow.Formula

/-- An expression of the formula language. -/
inductive Expr where
  | literal (cell : Cell)
  | column (name : String)
  | unary (symbol : String) (operand : Expr)
  | arithmetic (symbol : String) (left right : Expr)
  | comparison (symbol : String) (left right : Expr)
  | connective (symbol : String) (left right : Expr)
  | call (function : String) (arguments : List Expr)
  /-- An expression of a type that the evaluation does not know. -/
  | unsupported (type : String)

instance : Inhabited Expr := ⟨.literal .missing⟩

/-- The symbol of logical negation; every other unary symbol changes the sign. -/
def negationSymbol : String := "NOT"

/-- The symbol of conjunction; every other connective is a disjunction. -/
def conjunctionSymbol : String := "AND"

def disjunctionSymbol : String := "OR"

def signSymbol : String := "-"

def comparisonSymbols : List String := ["=", "==", "<", ">", "<=", ">=", "<>", "!="]

def sumSymbols : List String := ["+", "-"]

def productSymbols : List String := ["*", "/", "%"]

end TableFlow.Formula
