import TableFlow.Binary64.Basic
import TableFlow.Decimal.Scientific
import TableFlow.Text.CharClass

/-!
# Reading decimal numbers

A decimal literal is a significand — digits with an optional point among or around them — and an
optional exponent part. Digits of every script count. `Decimal.Literal.read?` reads a whole text
with an optional sign, `Decimal.scanUnsigned?` the longest literal at the start of a text.
-/

namespace TableFlow.Decimal

open Text (decimalDigit? isDecimalDigit)

/-- The number `digits · 10^(exponent - places)`, with a sign. -/
structure Literal where
  negative : Bool
  digits : List Nat
  places : Nat
  exponent : Int
deriving Repr, DecidableEq

/-- The value of a digit character. -/
def digitValue (c : Char) : Nat := (decimalDigit? c).getD 0

/-- The digits at the start of a text, and what follows them. -/
def spanDigits (cs : List Char) : List Nat × List Char :=
  ((cs.takeWhile isDecimalDigit).map digitValue, cs.dropWhile isDecimalDigit)

/-- A sign at the start of a text, and what follows it; the sign may be missing. -/
def spanSign : List Char → Bool × List Char
  | '-' :: rest => (true, rest)
  | '+' :: rest => (false, rest)
  | cs => (false, cs)

/-- The significand at the start of a text: its digits, how many of them follow the point, and the
rest of the text. -/
def scanSignificand? (cs : List Char) : Option (List Nat × Nat × List Char) :=
  match spanDigits cs with
  | ([], '.' :: rest) =>
      match spanDigits rest with
      | ([], _) => none
      | (fraction, after) => some (fraction, fraction.length, after)
  | ([], _) => none
  | (whole, '.' :: rest) =>
      let (fraction, after) := spanDigits rest
      some (whole ++ fraction, fraction.length, after)
  | (whole, rest) => some (whole, 0, rest)

/-- The exponent part at the start of a text, zero if there is no complete one. -/
def scanExponent (cs : List Char) : Int × List Char :=
  match cs with
  | mark :: rest =>
      if mark = 'e' ∨ mark = 'E' then
        let (negative, digits) := spanSign rest
        match spanDigits digits with
        | ([], _) => (0, cs)
        | (ds, after) => (Binary64.signedUnits negative (ofDigits ds), after)
      else
        (0, cs)
  | [] => (0, cs)

/-- The longest literal without a sign at the start of a text, and what follows it. -/
def scanUnsigned? (cs : List Char) : Option (Literal × List Char) :=
  (scanSignificand? cs).map fun (digits, places, rest) =>
    let (exponent, after) := scanExponent rest
    ({ negative := false, digits, places, exponent }, after)

/-- Reads a whole text as a literal with an optional sign. -/
def Literal.read? (cs : List Char) : Option Literal :=
  let (negative, rest) := spanSign cs
  match scanUnsigned? rest with
  | some (literal, []) => some { literal with negative }
  | _ => none

/-- All finite numbers of the format other than zero lie between `10^-400` and `10^400`. -/
def exponentBound : Int := 400

/-- The binary64 number nearest to a literal. -/
def Literal.toBinary64 (literal : Literal) : Binary64 :=
  let whole := ofDigits literal.digits
  let place := literal.exponent - literal.places
  let top := ((Decimal.digits whole).length : Int) + place
  if whole = 0 ∨ top < -exponentBound then
    .finite literal.negative 0 Binary64.isMagnitude_zero
  else if exponentBound < top then
    .infinite literal.negative
  else
    let (num, den) := scaled whole 1 (-place)
    Binary64.ofRatio literal.negative num den

/-- The binary64 number nearest to the literal that a text holds. -/
def readBinary64? (cs : List Char) : Option Binary64 := (Literal.read? cs).map Literal.toBinary64

end TableFlow.Decimal
