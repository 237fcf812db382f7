import TableFlow.Binary64.Basic
import TableFlow.Calendar.Clock

/-!
# Cells

A column has no type, so a cell of any column may hold any of these values or be missing. Lists and
records come from nested documents; the pipeline carries them along.

Cells are used as keys where names are told apart: two keys are equal if their values are, so a
truth value is equal to a number. Lists and records are no keys.

A fault is the cause for which an operation on cells has no result, and then for which a stage of a
pipeline stops. The message of a fault is what a user is shown; faults that are never shown to a
user have none.
-/

namespace TableFlow

/-- A value of a table. -/
inductive Cell where
  | missing
  | bool (b : Bool)
  | int (n : Int)
  | float (x : Binary64)
  | text (s : String)
  | date (d : Calendar.Date)
  | dateTime (t : Calendar.DateTime)
  | time (t : Calendar.TimeOfDay)
  | list (cells : List Cell)
  /-- Named values in order; no name occurs twice. -/
  | record (fields : List (String × Cell))

instance : Inhabited Cell := ⟨.missing⟩

namespace Cell

/-- Missing cells and empty texts count as empty. -/
def isEmpty : Cell → Bool
  | .missing => true
  | .text s => s.isEmpty
  | _ => false

/-- Whole numbers and binary64 numbers are numbers; booleans are not. -/
def isNumber : Cell → Bool
  | .int _ | .float _ => true
  | _ => false

def isMissing : Cell → Bool
  | .missing => true
  | _ => false

/-- Missing, empty and zero cells are false in the sense of a condition, all others true. -/
def isFalse : Cell → Bool
  | .missing => true
  | .bool b => !b
  | .int n => n == 0
  | .float x => match x with
      | .finite _ units _ => units == 0
      | _ => false
  | .text s => s.isEmpty
  | .list cells => cells.isEmpty
  | .record fields => fields.isEmpty
  | .date _ | .dateTime _ | .time _ => false

/-- What tells cells apart that are used as keys. -/
inductive Key where
  | missing
  | whole (n : Int)
  | fraction (x : Binary64)
  | text (s : String)
  | date (d : Calendar.Date)
  | dateTime (t : Calendar.DateTime)
  | time (t : Calendar.TimeOfDay)
deriving DecidableEq

/-- The key that a cell is. -/
def key? : Cell → Option Key
  | .missing => some .missing
  | .bool b => some (.whole (if b then 1 else 0))
  | .int n => some (.whole n)
  | .float x => some ((x.toInt?).elim (.fraction x) .whole)
  | .text s => some (.text s)
  | .date d => some (.date d)
  | .dateTime t => some (.dateTime t)
  | .time t => some (.time t)
  | .list _ | .record _ => none

/-- The text that a cell is. -/
def text? : Cell → Option String
  | .text s => some s
  | _ => none

@[simp] theorem text?_text (s : String) : (Cell.text s).text? = some s := rfl

/-- The cell is a text. -/
def IsText (cell : Cell) : Prop := ∃ s, cell = .text s

instance : DecidablePred IsText := fun cell =>
  match cell with
  | .text s => .isTrue ⟨s, rfl⟩
  | .missing | .bool _ | .int _ | .float _ | .date _ | .dateTime _ | .time _ | .list _
  | .record _ => .isFalse nofun

mutual

/-- How deep lists and records are nested in a cell. -/
def nesting : Cell → Nat
  | .list cells => nestingOfAll cells + 1
  | .record fields => nestingOfFields fields + 1
  | _ => 0

def nestingOfAll : List Cell → Nat
  | [] => 0
  | cell :: cells => max (nesting cell) (nestingOfAll cells)

def nestingOfFields : List (String × Cell) → Nat
  | [] => 0
  | (_, cell) :: fields => max (nesting cell) (nestingOfFields fields)

end

/-- Tells if a cell is a key. -/
def isKey (cell : Cell) : Bool := cell.key?.isSome

/-- Tells if a cell is the number that is not a number. -/
def isNaN : Cell → Bool
  | .float x => x.isNaN
  | _ => false

/-- The name of the kind of a cell in messages. -/
def kindName : Cell → String
  | .missing => "NoneType"
  | .bool _ => "bool"
  | .int _ => "int"
  | .float _ => "float"
  | .text _ => "str"
  | .date _ => "datetime.date"
  | .dateTime _ => "datetime.datetime"
  | .time _ => "datetime.time"
  | .list _ => "list"
  | .record _ => "dict"

end Cell

/-- Why an operation on cells has no result. -/
inductive Fault where
  /-- A whole number lies beyond the binary64 numbers. -/
  | integerTooLarge
  /-- A whole number has more digits than a numeral is written with. -/
  | numeralTooLong
  /-- A text that holds a NUL character is compared. -/
  | nulInText
  /-- A formula is not a text. -/
  | formulaNotText
  /-- A time is given with an offset where there is no room for one. -/
  | offsetNotStored
  /-- A number that is not finite stands for a count. -/
  | notWhole
  /-- A text that cannot be encoded is stored; the message tells where. -/
  | notEncodable (message : String)
  /-- Calls are nested too deeply. -/
  | tooDeep
  /-- A list or a record names a column. -/
  | notKey
  /-- A stage would give a column a name that is no text. The columns of rows have names that are
  texts, so what the program does then is not modelled. -/
  | nameNotText
deriving DecidableEq, Repr

/-- The text of a fault that is reported. -/
def Fault.message? : Fault → Option String
  | .numeralTooLong =>
      some ("Exceeds the limit (4300 digits) for integer string conversion; " ++
        "use sys.set_int_max_str_digits() to increase the limit")
  | .nulInText => some "embedded null character"
  | .notWhole => some "cannot convert float NaN to integer"
  | .notEncodable message => some message
  | .integerTooLarge | .formulaNotText | .offsetNotStored | .tooDeep | .notKey
  | .nameNotText => none

/-- How many calls may be nested one inside another. An interpreter allows a thousand; twenty of
them are left to the callers of the program, to the stages that are no formulas, and to the helpers
that are called at the innermost level, which are not counted. -/
def callLimit : Nat := 980

end TableFlow
