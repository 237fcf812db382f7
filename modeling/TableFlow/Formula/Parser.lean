import TableFlow.Formula.Constant
import TableFlow.Formula.Expr
import TableFlow.Formula.Lexer

/-!
# From tokens to expressions

The grammar has eight levels. From the loosest to the tightest: disjunction, conjunction, negation,
comparison, sum, product, sign, and atoms. Each level reads expressions of the next one; an atom
may start again with a disjunction, between parentheses or as an argument of a call.

Disjunctions, conjunctions, sums and products associate to the left, comparisons do not associate.
Each level is read by one call inside that of the level before, and the number of these calls is
bounded. The arguments of a call of a function are read two calls deeper than what stands between
parentheses: one for the name and one for the list of the arguments.

## Main results

* `Parser.level_atom`: an atom reads its arguments two calls deeper.
-/

namespace TableFlow.Formula

/-- Why a list of tokens is not an expression. -/
inductive ParseError where
  | emptyExpression
  | unexpected (token : Token)
  | missingParenthesis
  | tooDeep
  /-- The text of a literal token has no value. -/
  | noValue (text : String)
deriving DecidableEq, Repr

def ParseError.message : ParseError → String
  | .emptyExpression => "Empty expression."
  | .unexpected token => "Unexpected token: " ++ token.describe
  | .missingParenthesis => "Expected ')'"
  | .tooDeep => "Expression is nested too deeply."
  | .noValue text => "could not convert string to float: " ++ Text.quote text

namespace Parser

/-- Reads a part of an expression: gives a value and the tokens that follow. -/
abbrev Reader (α : Type) := List Token → Except ParseError (α × List Token)

/-- The levels of the grammar, from the loosest to the tightest. -/
inductive Level where
  | disjunction
  | conjunction
  | negation
  | comparison
  | sum
  | product
  | sign
  | atom
deriving DecidableEq, Repr

/-- The token at the front; the formula ends where the tokens do. -/
def front (ts : List Token) : Token := ts.headD .endOfFormula

/-- The operator at the front if it is one of the symbols, and the tokens after it. -/
def operator? (symbols : List String) : List Token → Option (String × List Token)
  | ⟨.operator, value⟩ :: rest =>
      let symbol := String.ofList (Text.upper value.toList)
      if symbol ∈ symbols then some (symbol, rest) else none
  | _ => none

/-- The tokens after a punctuation mark that stands at the front. -/
def punctuation? (mark : String) : List Token → Option (List Token)
  | ⟨.punctuation, value⟩ :: rest => if value = mark then some rest else none
  | _ => none

/-- Extends an expression to the left of operators by the operands to their right. Each operator is
one token, so the number of tokens is `fuel` enough. -/
def chain (operand : Reader Expr) (symbols : List String)
    (combine : String → Expr → Expr → Expr) : Nat → Expr → Reader Expr
  | 0, left => fun ts => .ok (left, ts)
  | fuel + 1, left => fun ts =>
      match operator? symbols ts with
      | none => .ok (left, ts)
      | some (symbol, rest) => do
          let (right, rest) ← operand rest
          chain operand symbols combine fuel (combine symbol left right) rest

/-- Reads operands with operators between them. -/
def leftAssociative (operand : Reader Expr) (symbols : List String)
    (combine : String → Expr → Expr → Expr) : Reader Expr := fun ts => do
  let (left, rest) ← operand ts
  chain operand symbols combine rest.length left rest

/-- Reads two operands with an operator between them, or one operand alone. -/
def nonAssociative (operand : Reader Expr) (symbols : List String)
    (combine : String → Expr → Expr → Expr) : Reader Expr := fun ts => do
  let (left, rest) ← operand ts
  match operator? symbols rest with
  | none => .ok (left, rest)
  | some (symbol, rest) => do
      let (right, rest) ← operand rest
      .ok (combine symbol left right, rest)

/-- Reads an operator and its operand, or what stands there without the operator. -/
def prefixed (operand otherwise : Reader Expr) (symbol : String) : Reader Expr := fun ts =>
  match operator? [symbol] ts with
  | some (symbol, rest) => do
      let (inner, rest) ← operand rest
      .ok (.unary symbol inner, rest)
  | none => otherwise ts

/-- Reads the parenthesis that closes. -/
def closing {α : Type} (value : α) : Reader α := fun ts =>
  match punctuation? ")" ts with
  | some rest => .ok (value, rest)
  | none => .error .missingParenthesis

/-- Reads arguments with commas between them. Each comma is one token, so the number of tokens is
`fuel` enough. -/
def argumentsFrom (expression : Reader Expr) : Nat → Reader (List Expr)
  | 0 => fun ts => .ok ([], ts)
  | fuel + 1 => fun ts => do
      let (argument, rest) ← expression ts
      match punctuation? "," rest with
      | none => .ok ([argument], rest)
      | some rest => do
          let (others, rest) ← argumentsFrom expression fuel rest
          .ok (argument :: others, rest)

/-- Reads the arguments of a call after its opening parenthesis. -/
def arguments (expression : Reader Expr) : Reader (List Expr) := fun ts =>
  match punctuation? ")" ts with
  | some rest => .ok ([], rest)
  | none => do
      let (args, rest) ← argumentsFrom expression (ts.length + 1) ts
      closing args rest

/-- The name of a function, which is known in any case. -/
def functionName (name : String) : String := String.ofList (Text.upper name.toList)

/-- Reads a literal, a name, a call, or an expression between parentheses. -/
def atom (expression argument : Reader Expr) : Reader Expr := fun ts =>
  match punctuation? "(" ts with
  | some rest => do
      let (inner, rest) ← expression rest
      closing inner rest
  | none =>
      match ts with
      | ⟨.identifier, name⟩ :: rest =>
          match punctuation? "(" rest with
          | some rest => do
              let (args, rest) ← arguments argument rest
              .ok (.call (functionName name) args, rest)
          | none => .ok (.column name, rest)
      | ⟨.literal, text⟩ :: rest =>
          match Constant.value? text with
          | some cell => .ok (.literal cell, rest)
          | none => .error (.noValue text)
      | ts => .error (.unexpected (front ts))

/-- Reads nothing, as no call is left. -/
def exhausted : Reader Expr := fun _ => .error .tooDeep

/-- Reads an expression of a level by at most `calls` calls one inside another. -/
def level : (calls : Nat) → Level → Reader Expr
  | 0, _ => exhausted
  | calls + 1, .disjunction =>
      leftAssociative (level calls .conjunction) [disjunctionSymbol] .connective
  | calls + 1, .conjunction =>
      leftAssociative (level calls .negation) [conjunctionSymbol] .connective
  | calls + 1, .negation =>
      prefixed (level calls .negation) (level calls .comparison) negationSymbol
  | calls + 1, .comparison => nonAssociative (level calls .sum) comparisonSymbols .comparison
  | calls + 1, .sum => leftAssociative (level calls .product) sumSymbols .arithmetic
  | calls + 1, .product => leftAssociative (level calls .sign) productSymbols .arithmetic
  | calls + 1, .sign => prefixed (level calls .sign) (level calls .atom) signSymbol
  | calls + 3, .atom => atom (level (calls + 2) .disjunction) (level calls .disjunction)
  | calls + 1, .atom => atom (level calls .disjunction) exhausted

theorem level_atom (calls : Nat) :
    level (calls + 1) .atom = atom (level calls .disjunction) (level (calls - 2) .disjunction) := by
  match calls with
  | 0 | 1 | _ + 2 => rfl

end Parser

/-- The expression of a list of tokens, all tokens up to the end of the formula being used, by at
most `calls` calls one inside another. -/
def parse (calls : Nat) (ts : List Token) : Except ParseError Expr :=
  if (Parser.front ts).kind = .endOfFormula then
    .error .emptyExpression
  else do
    let (expr, rest) ← Parser.level calls .disjunction ts
    if (Parser.front rest).kind = .endOfFormula then .ok expr
    else .error (.unexpected (Parser.front rest))

/-- Why a text is not a formula. -/
inductive SyntaxError where
  | lex (e : LexError)
  | parse (e : ParseError)
deriving DecidableEq, Repr

def SyntaxError.message : SyntaxError → String
  | .lex e => e.message
  | .parse e => e.message

/-- The expression of a formula, by at most `calls` calls one inside another. -/
def read (calls : Nat) (text : String) : Except SyntaxError Expr :=
  match tokenize text with
  | .error e => .error (.lex e)
  | .ok tokens =>
      match parse calls tokens with
      | .error e => .error (.parse e)
      | .ok expr => .ok expr

end TableFlow.Formula
