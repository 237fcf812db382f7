import TableFlow.Cell.Coercion
import TableFlow.Decimal.Literal
import TableFlow.Sheet.Serial
import TableFlow.Text.Lines

/-!
# Sheets of a workbook

What a sheet keeps of a cell is what openpyxl documents for a workbook that is saved and loaded. A
sheet stores numbers with sixteen significant digits, dates and times as numbers with a date
format, and everything else as it is. What a stored number is read back as depends on its digits
only: without a point and without an exponent it is a whole number. An empty text is a stored cell
without a value: it counts for the extent of the sheet and is read as missing.
-/

namespace TableFlow.Sheet

/-- A sheet: its title and the cells of its rows as they are stored. -/
structure Grid where
  title : String
  rows : List (List Cell)

instance : Inhabited Grid := ⟨⟨"", []⟩⟩

/-- Why cells cannot be stored. -/
inductive StoreError where
  | fault (cause : Fault)
  /-- A text holds a character that no sheet can hold. -/
  | illegalCharacter
  | title (message : String)
deriving DecidableEq, Repr

/-- Sixteen digits, with an exponent part below `0.0001` and from `10^16` on. -/
def numberLayout : Decimal.Layout :=
  { leastPositional := -4, greatestPositional := 15, keepsPoint := false, exponentWidth := 2 }

/-- The text in which a number is stored. -/
def storedText (x : Binary64) : List Char :=
  (x.textWith numberLayout (Decimal.significant 16)).toList

/-- The whole number of a numeral without a point and without an exponent. -/
def wholeOfText? (cs : List Char) : Option Int :=
  let (negative, digits) := Decimal.spanSign cs
  match Decimal.spanDigits digits with
  | ([], _) => none
  | (ds, []) => some (Binary64.signedUnits negative (Decimal.ofDigits ds))
  | _ => none

/-- The number that a stored text is read back as. -/
def readNumber (cs : List Char) : Cell :=
  match wholeOfText? cs with
  | some n => .int n
  | none => .float ((Decimal.readBinary64? cs).getD .nan)

/-- The number of a cell as a binary64 number. -/
def storeNumber (cell : Cell) : Except StoreError Cell :=
  match cell.toNumber with
  | .ok x => .ok (if x.isFinite then readNumber (storedText x) else .missing)
  | .error cause => .error (.fault cause)

/-- The cell that a number with a date format is read back as. -/
def storeSerial (serial : Binary64) : Cell :=
  let stored := match (readNumber (storedText serial)).toNumber with
    | .ok x => x
    | .error _ => serial
  match readSerial? stored with
  | some (.time t) => .time t
  | some (.moment t) => .dateTime t
  | none => .text "#VALUE!"

/-- The longest text of a cell. -/
def longestText : Nat := 32767

/-- Tells if no sheet can hold a character. -/
def isIllegal (c : Char) : Bool :=
  c.toNat < 0x20 && c != '\t' && c != '\n' && c != '\r'

/-- A text as it is stored, its line ends being line feeds. -/
def storeText (s : String) : Except StoreError Cell :=
  let cs := s.toList.take longestText
  if cs.any isIllegal then .error .illegalCharacter
  else .ok (.text (String.ofList (Text.unifyNewlines cs)))

/-- Dates and times have no offset in a sheet. -/
def withoutOffset (offset : Option Calendar.Offset) (serial : Binary64) : Except StoreError Cell :=
  if offset.isSome then .error (.fault .offsetNotStored) else .ok (storeSerial serial)

/-- A cell as it is stored. -/
def store (cell : Cell) : Except StoreError Cell :=
  match cell with
  | .missing => .ok .missing
  | .bool b => .ok (.bool b)
  | .int _ | .float _ => storeNumber cell
  | .text s => storeText s
  | .date d => .ok (storeSerial (momentSerial d.midnight))
  | .dateTime t => withoutOffset t.offset (momentSerial t)
  | .time t => withoutOffset t.offset (clockSerial t.clock)
  | .list _ | .record _ =>
      match cell.literal with
      | .ok s => storeText s
      | .error cause => .error (.fault cause)

/-- The characters that a title does not have. -/
def illegalInTitle : List Char := ['\\', '*', '?', ':', '/', '[', ']']

/-- A title that a sheet can have. -/
def checkTitle (title : String) : Except StoreError String :=
  if title.isEmpty then
    .error (.title "Title must have at least one character")
  else
    match title.toList.find? (· ∈ illegalInTitle) with
    | some c => .error (.title ("Invalid character " ++ c.toString ++ " found in sheet title"))
    | none => .ok title

/-- A cell as a user types it in: a text that starts with an equals sign is a formula, which has no
value before it is calculated. -/
def enter (cell : Cell) : Except StoreError Cell :=
  match cell with
  | .text s => if s.startsWith "=" && s.length > 1 then .ok (.text "") else storeText s
  | cell => store cell

/-- The value of a stored cell. -/
def valueOf (cell : Cell) : Cell :=
  match cell with
  | .text s => if s.isEmpty then .missing else cell
  | cell => cell

/-- The values of the rows of a sheet. -/
def Grid.values (grid : Grid) : List (List Cell) := grid.rows.map (·.map valueOf)

/-- The cells up to the last one that is stored. -/
def dropMissingEnd (cells : List Cell) : List Cell :=
  (cells.reverse.dropWhile Cell.isMissing).reverse

/-- Fills up a row with missing cells. -/
def padTo (width : Nat) (row : List Cell) : List Cell :=
  row ++ List.replicate (width - row.length) .missing

/-- The values of the least rectangle from the first cell on that holds all stored cells. -/
def Grid.extent (grid : Grid) : List (List Cell) :=
  let rows := grid.rows.map dropMissingEnd
  let used := (rows.reverse.dropWhile List.isEmpty).reverse
  let width := (used.map List.length).foldl max 0
  used.map fun row => (padTo width row).map valueOf

end TableFlow.Sheet
