import TableFlow.Decimal.Digits

/-!
# Decimal numbers in scientific form, and how they are laid out

`Decimal.Scientific` is a positive decimal number `d₁.d₂d₃… · 10^exponent` given by its digits.
A `Decimal.Layout` fixes how such a number is written: for which exponents without an exponent
part, whether a whole number keeps a fraction part, and how wide an exponent is at least.
-/

namespace TableFlow.Decimal

/-- The number `d₁.d₂d₃… · 10^exponent`; no digits denote zero. -/
structure Scientific where
  digits : List Nat
  exponent : Int
deriving Repr, DecidableEq

/-- The same number without zeros at its end. -/
def Scientific.trim (s : Scientific) : Scientific :=
  { s with digits := (s.digits.reverse.dropWhile (· == 0)).reverse }

/-- The number `whole · 10^place`. -/
def Scientific.ofWhole (whole : Nat) (place : Int) : Scientific :=
  let ds := Decimal.digits whole
  { digits := ds, exponent := place + (ds.length : Int) - 1 }

/-- How a decimal number is written. -/
structure Layout where
  /-- The least exponent of a number written without an exponent part. -/
  leastPositional : Int
  /-- The greatest exponent of a number written without an exponent part. -/
  greatestPositional : Int
  /-- A whole number written without an exponent part ends in `.0`. -/
  keepsPoint : Bool
  /-- The least number of digits of an exponent. -/
  exponentWidth : Nat

/-- The digits of a number with a point after the first `whole` of them; zeros stand for missing
digits. -/
def pointAfter (keepsPoint : Bool) (whole : Nat) (ds : List Nat) : List Char :=
  let front := (ds.take whole ++ List.replicate (whole - ds.length) 0).map digitChar
  match ds.drop whole with
  | [] => if keepsPoint then front ++ ['.', '0'] else front
  | rest => front ++ '.' :: rest.map digitChar

/-- Writes a positive number. -/
def Layout.write (layout : Layout) (s : Scientific) : List Char :=
  if s.exponent < layout.leastPositional ∨ layout.greatestPositional < s.exponent then
    pointAfter false 1 s.digits ++
      'e' :: (if s.exponent < 0 then '-' else '+') ::
        paddedNumeral layout.exponentWidth s.exponent.natAbs
  else if s.exponent < 0 then
    '0' :: '.' :: (List.replicate (s.exponent.natAbs - 1) '0' ++ s.digits.map digitChar)
  else
    pointAfter layout.keepsPoint (s.exponent.toNat + 1) s.digits

/-- The quotient `num / den` in units of `10^place`, that is `num / den · 10^(-place)`. -/
def scaled (num den : Nat) (place : Int) : Nat × Nat :=
  if place < 0 then (num * 10 ^ place.natAbs, den) else (num, den * 10 ^ place.toNat)

/-- Numbers down to `10^-350` have a positive whole part after this scaling. -/
def exponentOffset : Nat := 350

/-- The exponent of the leading digit of `num / den`, at least `10^-350`. -/
def leadingExponent (num den : Nat) : Int :=
  ((digits (num * 10 ^ exponentOffset / den)).length : Int) - 1 - exponentOffset

end TableFlow.Decimal
