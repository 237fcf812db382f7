import TableFlow.Decimal.Digits
import TableFlow.Text.CharClass
import TableFlow.Text.Printable

/-!
# Quoted text

A quoted text stands between two quotation marks and shows printable characters as themselves. The
mark is the apostrophe, unless the text holds apostrophes and no double quotes. The backslash, the
mark, and characters that are not printable are written as escape sequences.
-/

namespace TableFlow.Text

/-- The least hexadecimal digits of a code point, in front of `tail`. -/
def hexDigits (width code : Nat) : List Char :=
  let ds := Nat.toDigits 16 code
  List.replicate (width - ds.length) '0' ++ ds

/-- The escape sequence of a character by its code point. -/
def escapeCode (c : Char) : List Char :=
  let code := codePoint c
  if code < 0x100 then '\\' :: 'x' :: hexDigits 2 code
  else if code < 0x10000 then '\\' :: 'u' :: hexDigits 4 code
  else '\\' :: 'U' :: hexDigits 8 code

/-- A character as it stands between the given quotation marks. -/
def quoteChar (mark c : Char) : List Char :=
  if c = mark ∨ c = '\\' then ['\\', c]
  else if c = '\n' then ['\\', 'n']
  else if c = '\r' then ['\\', 'r']
  else if c = '\t' then ['\\', 't']
  else if isPrintable c then [c]
  else escapeCode c

/-- The quotation mark of a text. -/
def quotationMark (cs : List Char) : Char :=
  if '\'' ∈ cs ∧ '"' ∉ cs then '"' else '\''

/-- A text between quotation marks. -/
def quoteChars (cs : List Char) : List Char :=
  let mark := quotationMark cs
  mark :: (cs.flatMap (quoteChar mark) ++ [mark])

/-- A text between quotation marks. -/
def quote (s : String) : String := String.ofList (quoteChars s.toList)

end TableFlow.Text
