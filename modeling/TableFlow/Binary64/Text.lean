import TableFlow.Decimal.Shortest

/-!
# Texts of binary64 numbers

A `Decimal.Layout` turns a finite number into text with the fewest digits that read back; zero is
written as a single digit. The texts of the other numbers are `nan`, `inf` and `-inf`.
-/

namespace TableFlow.Binary64

/-- The digits of zero or of a positive number of units, laid out. -/
def magnitudeText (layout : Decimal.Layout) (choose : Nat → Decimal.Scientific) (units : Nat) :
    List Char :=
  if units = 0 then layout.write ⟨[0], 0⟩ else layout.write (choose units)

/-- The text of a number; the digits of a finite one are selected by `choose`. -/
def textWith (layout : Decimal.Layout) (choose : Nat → Decimal.Scientific) : Binary64 → String
  | .nan => "nan"
  | .infinite false => "inf"
  | .infinite true => "-inf"
  | .finite negative units _ =>
      let text := magnitudeText layout choose units
      String.ofList (if negative then '-' :: text else text)

/-- The text of a number with the fewest digits that read back. -/
def text (layout : Decimal.Layout) : Binary64 → String := textWith layout Decimal.shortest

/-- The text of a number with a fixed number of decimal places. -/
def fixedText (places : Nat) : Binary64 → String
  | .nan => "nan"
  | .infinite false => "inf"
  | .infinite true => "-inf"
  | .finite negative units _ =>
      let text := Decimal.fixedPlaces places units
      String.ofList (if negative then '-' :: text else text)

end TableFlow.Binary64
