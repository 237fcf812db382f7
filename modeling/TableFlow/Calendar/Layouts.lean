import TableFlow.Calendar.Clock
import TableFlow.Text.CharClass

/-!
# Dates in common written layouts

Layouts such as `12/31/2024`, `3 Mar 2024` and `March 3, 2024`. A layout is a list of elements that
are matched one after the other; days and months have one or two digits, years four, and names of
months are English and may be in any case.
-/

namespace TableFlow.Calendar

open Text (decimalDigit? isBlank)

/-- An element of a layout. -/
inductive LayoutPart where
  | year
  | month
  | day
  /-- An abbreviated name of a month. -/
  | monthAbbreviation
  /-- A full name of a month. -/
  | monthName
  /-- A character that stands for itself. -/
  | mark (c : Char)
  /-- One or more characters of white space. -/
  | blanks

def monthNames : List String :=
  ["january", "february", "march", "april", "may", "june", "july", "august", "september",
    "october", "november", "december"]

/-- What the parts of a text say about its date. -/
structure DateParts where
  year : Nat
  month : Nat
  day : Nat

/-- The value of the first digit of a text. -/
def firstDigit? : List Char → Option (Nat × List Char)
  | c :: rest => (decimalDigit? c).map (·, rest)
  | [] => none

/-- A digit of the European script that is not zero. -/
def nonZeroDigit? : List Char → Option (Nat × List Char)
  | c :: rest => if '1' ≤ c ∧ c ≤ '9' then some (c.toNat - '0'.toNat, rest) else none
  | [] => none

/-- A number of one or two digits: of the readings of two digits that `tens` admits, the first that
matches, and otherwise a single digit. -/
def readMonth? : List Char → Option (Nat × List Char)
  | '1' :: '0' :: rest => some (10, rest)
  | '1' :: '1' :: rest => some (11, rest)
  | '1' :: '2' :: rest => some (12, rest)
  | '0' :: rest => nonZeroDigit? rest
  | cs => nonZeroDigit? cs

/-- A day of one or two digits; a space may stand in place of the first of two digits. -/
def readDay? : List Char → Option (Nat × List Char)
  | '3' :: '0' :: rest => some (30, rest)
  | '3' :: '1' :: rest => some (31, rest)
  | '0' :: rest => nonZeroDigit? rest
  | ' ' :: rest => nonZeroDigit? rest
  | cs => do
      let (tens, rest) ← nonZeroDigit? cs
      if tens ≤ 2 then
        match firstDigit? rest with
        | some (ones, rest) => some (10 * tens + ones, rest)
        | none => some (tens, rest)
      else
        some (tens, rest)

/-- A year of four digits. -/
def readYear? (cs : List Char) : Option (Nat × List Char) := do
  let (a, cs) ← firstDigit? cs
  let (b, cs) ← firstDigit? cs
  let (c, cs) ← firstDigit? cs
  let (d, cs) ← firstDigit? cs
  some (((a * 10 + b) * 10 + c) * 10 + d, cs)

/-- The number of the first name that a text starts with, in any case of its letters. -/
def readName? (names : List String) (cs : List Char) : Option (Nat × List Char) :=
  let lowered := cs.map Char.toLower
  (names.zipIdx 1).findSome? fun (name, number) =>
    if name.toList.isPrefixOf lowered then some (number, cs.drop name.length) else none

/-- Matches the elements of a layout with a whole text. -/
def readParts? : List LayoutPart → DateParts → List Char → Option DateParts
  | [], parts, cs => if cs.isEmpty then some parts else none
  | .year :: layout, parts, cs => do
      let (year, rest) ← readYear? cs
      readParts? layout { parts with year } rest
  | .month :: layout, parts, cs => do
      let (month, rest) ← readMonth? cs
      readParts? layout { parts with month } rest
  | .day :: layout, parts, cs => do
      let (day, rest) ← readDay? cs
      readParts? layout { parts with day } rest
  | .monthAbbreviation :: layout, parts, cs => do
      let abbreviations := monthNames.map fun name => String.ofList (name.toList.take 3)
      let (month, rest) ← readName? abbreviations cs
      readParts? layout { parts with month } rest
  | .monthName :: layout, parts, cs => do
      let (month, rest) ← readName? monthNames cs
      readParts? layout { parts with month } rest
  | .mark c :: layout, parts, cs =>
      match cs with
      | d :: rest => if d = c then readParts? layout parts rest else none
      | [] => none
  | .blanks :: layout, parts, cs =>
      match cs with
      | c :: rest => if isBlank c then readParts? layout parts (rest.dropWhile isBlank) else none
      | [] => none

/-- The layouts, in the order in which they are tried. -/
def layouts : List (List LayoutPart) := [
  [.month, .mark '/', .day, .mark '/', .year],
  [.year, .mark '/', .month, .mark '/', .day],
  [.day, .blanks, .monthAbbreviation, .blanks, .year],
  [.day, .blanks, .monthName, .blanks, .year],
  [.monthAbbreviation, .blanks, .day, .blanks, .year],
  [.monthAbbreviation, .blanks, .day, .mark ',', .blanks, .year],
  [.monthName, .blanks, .day, .blanks, .year],
  [.monthName, .blanks, .day, .mark ',', .blanks, .year]]

/-- The date that a text gives in one of the layouts. -/
def Date.ofLayouts? (cs : List Char) : Option Date :=
  layouts.findSome? fun layout => do
    let parts ← readParts? layout ⟨0, 0, 0⟩ cs
    Date.ofYmd? parts.year parts.month parts.day

end TableFlow.Calendar
