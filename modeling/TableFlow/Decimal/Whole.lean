import TableFlow.Decimal.Literal
import TableFlow.Text.CharClass

/-!
# Reading whole numbers

A whole number is written with an optional sign, white space around it, and underscores between
digits where that helps reading. Information separators are no white space here.
-/

namespace TableFlow.Decimal

open Text (isDecimalDigit)

/-- A numeral without the underscores between two digits. Other underscores stay. -/
def dropSeparators : List Char → List Char
  | c :: '_' :: d :: rest =>
      if isDecimalDigit c && isDecimalDigit d then c :: dropSeparators (d :: rest)
      else c :: '_' :: dropSeparators (d :: rest)
  | c :: rest => c :: dropSeparators rest
  | [] => []

/-- The whole number of a numeral of at most `digitLimit` digits. -/
def wholeOfNumeral? (cs : List Char) : Option Int :=
  let (negative, rest) := spanSign cs
  match spanDigits rest with
  | ([], _) => none
  | (ds, []) =>
      if ds.length ≤ digitLimit then some (Binary64.signedUnits negative (ofDigits ds)) else none
  | _ => none

/-- Tells if a character may stand around a numeral. -/
def isMargin (c : Char) : Bool := Text.isBlank c && !(0x1C ≤ c.toNat && c.toNat ≤ 0x1F)

/-- A numeral without the white space around it. -/
def trimMargins (cs : List Char) : List Char :=
  ((cs.dropWhile isMargin).reverse.dropWhile isMargin).reverse

/-- Reads a whole number. -/
def readWhole? (cs : List Char) : Option Int := wholeOfNumeral? (dropSeparators (trimMargins cs))

end TableFlow.Decimal
