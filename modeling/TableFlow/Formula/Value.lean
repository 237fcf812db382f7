import TableFlow.Binary64.Arithmetic
import TableFlow.Binary64.Order
import TableFlow.Cell.Coercion
import TableFlow.Text.Order

/-!
# Operations on the values of formulas

Arithmetic keeps whole numbers whole, except for quotients and remainders, and takes a whole number
as a binary64 number if the other operand is one. Numbers are compared as binary64 numbers and
texts by code points; a missing value equals only a missing value and is in no order.
-/

namespace TableFlow.Formula

/-- Why an expression has no value. -/
inductive EvalError where
  /-- The rules of the language give the expression no value. -/
  | refused (message : String)
  /-- An operation on cells has no result. -/
  | fault (cause : Fault)
  /-- A quotient of whole numbers lies beyond the binary64 numbers. -/
  | quotientTooLarge
  /-- An infinite dividend leaves no remainder. -/
  | noRemainder
  | tooDeep
deriving DecidableEq, Repr

def EvalError.message : EvalError → String
  | .refused message => message
  | .fault .integerTooLarge => "int too large to convert to float"
  | .fault cause => cause.message?.getD ""
  | .quotientTooLarge => "integer division result too large for a float"
  | .noRemainder => "math domain error"
  | .tooDeep => "maximum recursion depth exceeded"

/-- The result of an operation on cells as the result of an expression. -/
def lift {α : Type} : Except Fault α → Except EvalError α := Except.mapError .fault

/-- The truth of a value: missing values, zero, NaN, and what is empty are false. -/
def isTrue (cell : Cell) : Bool := !(cell.isNaN || cell.isFalse)

/-- An operand of an arithmetic operation. -/
inductive Number where
  | whole (n : Int)
  | binary64 (x : Binary64)

namespace Number

def toCell : Number → Cell
  | .whole n => .int n
  | .binary64 x => .float x

def toBinary64 : Number → Except EvalError Binary64
  | .whole n => lift (Cell.toNumber (.int n))
  | .binary64 x => .ok x

/-- The number of an operand. Booleans are one and zero, texts are read as numbers. -/
def ofCell (cell : Cell) : Except EvalError Number :=
  match cell with
  | .int n => .ok (.whole n)
  | .float x => .ok (.binary64 x)
  | .bool b => .ok (.whole (if b then 1 else 0))
  | cell => do
      let x ← lift cell.toNumber
      if x.isNaN then
        let shown ← lift cell.literal
        .error (.refused ("Not a number: " ++ shown))
      else
        .ok (.binary64 x)

def isZero : Number → Bool
  | .whole n => n == 0
  | .binary64 x => x.isZero

def neg : Number → Number
  | .whole n => .whole (-n)
  | .binary64 x => .binary64 (-x)

/-- Applies an operation that whole numbers and binary64 numbers both have. -/
def combine (onWhole : Int → Int → Int) (onBinary64 : Binary64 → Binary64 → Binary64) :
    Number → Number → Except EvalError Number
  | .whole m, .whole n => .ok (.whole (onWhole m n))
  | a, b => do
      let x ← a.toBinary64
      let y ← b.toBinary64
      .ok (.binary64 (onBinary64 x y))

def divide : Number → Number → Except EvalError Number
  | .whole m, .whole n =>
      match Binary64.ofIntRatio? m n with
      | some x => .ok (.binary64 x)
      | none => .error .quotientTooLarge
  | a, b => do
      let x ← a.toBinary64
      let y ← b.toBinary64
      .ok (.binary64 (x / y))

def remainder (a b : Number) : Except EvalError Number := do
  let x ← a.toBinary64
  let y ← b.toBinary64
  match x.rem? y with
  | some z => .ok (.binary64 z)
  | none => .error .noRemainder

/-- The result of a division, which must not be by zero. -/
def guarded (division : Number → Number → Except EvalError Number) (a b : Number) :
    Except EvalError Number :=
  if b.isZero then .error (.refused "Division by zero") else division a b

/-- Applies the operation of a symbol. -/
def apply (symbol : String) (a b : Number) : Except EvalError Number :=
  match symbol with
  | "+" => combine (· + ·) (· + ·) a b
  | "-" => combine (· - ·) (· - ·) a b
  | "*" => combine (· * ·) (· * ·) a b
  | "/" => guarded divide a b
  | "%" => guarded remainder a b
  | _ => .error (.refused ("Unsupported operator: " ++ symbol))

end Number

/-- Tells if a value is a text. -/
def isText : Cell → Bool
  | .text _ => true
  | _ => false

/-- The texts of two values one after the other. -/
def concatenate (left right : Cell) : Except EvalError Cell := do
  let s ← lift left.toText
  let t ← lift right.toText
  .ok (.text (s ++ t))

/-- The result of an arithmetic operation: missing if an operand is, and for a sum with a text the
two texts one after the other. -/
def arithmetic (symbol : String) (left right : Cell) : Except EvalError Cell :=
  if left.isMissing || right.isMissing then
    .ok .missing
  else if symbol = "+" ∧ (isText left || isText right) then
    concatenate left right
  else do
    let a ← Number.ofCell left
    let b ← Number.ofCell right
    let c ← Number.apply symbol a b
    .ok c.toCell

/-- The result of a sign: missing for a missing value. -/
def negative (cell : Cell) : Except EvalError Cell :=
  if cell.isMissing then
    .ok .missing
  else do
    let a ← Number.ofCell cell
    .ok a.neg.toCell

/-- Tells if two values are equal. -/
def areEqual : Cell → Cell → Except Fault Bool
  | .missing, b => .ok b.isMissing
  | _, .missing => .ok false
  | .text s, .text t => .ok (s == t)
  | .bool a, .bool b => .ok (a == b)
  | a, b => do
      let x ← a.toNumber
      let y ← b.toNumber
      .ok (x.numEq y)

/-- The four relations of order. -/
inductive OrderRelation where
  | less
  | greater
  | atMost
  | atLeast
deriving DecidableEq, Repr

namespace OrderRelation

def ofSymbol? : String → Option OrderRelation
  | "<" => some .less
  | ">" => some .greater
  | "<=" => some .atMost
  | ">=" => some .atLeast
  | _ => none

/-- Tells if a relation holds between texts that compare as given. -/
def holdsFor (relation : OrderRelation) (o : Ordering) : Bool :=
  match relation with
  | .less => o.isLT
  | .greater => o.isGT
  | .atMost => o.isLE
  | .atLeast => o.isGE

/-- Tells if a relation holds between binary64 numbers. -/
def holds (relation : OrderRelation) (x y : Binary64) : Bool :=
  match relation with
  | .less => x.lt y
  | .greater => y.lt x
  | .atMost => x.le y
  | .atLeast => y.le x

end OrderRelation

/-- Tells if two values are in the order of a symbol. -/
def inOrder (symbol : String) (left right : Cell) : Except EvalError Bool := do
  if left.isMissing || right.isMissing then
    .ok false
  else
    let unsupported := EvalError.refused ("Unsupported comparison: " ++ symbol)
    match left, right with
    | .text s, .text t =>
        match OrderRelation.ofSymbol? symbol with
        | some relation => .ok (relation.holdsFor (Text.compareCodePoints s.toList t.toList))
        | none => .error unsupported
    | _, _ => do
        let x ← lift left.toNumber
        let y ← lift right.toNumber
        match OrderRelation.ofSymbol? symbol with
        | some relation => .ok (relation.holds x y)
        | none => .error unsupported

/-- The result of the comparison of a symbol. -/
def compare (symbol : String) (left right : Cell) : Except EvalError Bool :=
  if symbol = "=" ∨ symbol = "==" then
    lift (areEqual left right)
  else if symbol = "!=" ∨ symbol = "<>" then do
    let equal ← lift (areEqual left right)
    .ok !equal
  else
    inOrder symbol left right

end TableFlow.Formula
