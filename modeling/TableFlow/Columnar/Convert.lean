import TableFlow.Columnar.Type

/-!
# Cells of typed columns

A cell of a typed column is missing or a value of the type. Conversions are those that Arrow
documents for values of an array of a given type. Conversion to a type loses nothing but the time
and the offset of a date and time where they have no room; whole numbers count days or microseconds
in columns of dates and times.
-/

namespace TableFlow.Columnar

open Calendar (Date DateTime Clock Offset TimeOfDay epochDay)

/-- Why a cell is not converted. -/
inductive ConvertError where
  /-- The cell is of another kind than the type. -/
  | otherKind
  | fault (cause : Fault)

/-- Whole numbers of 64 bits. -/
def isInt64 (n : Int) : Bool := decide (-2 ^ 63 ≤ n ∧ n < 2 ^ 63)

/-- Whole numbers that every binary64 number in between represents exactly. -/
def isExact (n : Int) : Bool := decide (n.natAbs ≤ 2 ^ 53)

/-- A whole number of 64 bits. -/
def checkedInt64 (n : Int) : Except ConvertError Int :=
  if isInt64 n then .ok n else .error (.fault .integerTooLarge)

/-- The count that a number stands for; fractions are dropped. -/
def countOf (cell : Cell) : Except ConvertError Int :=
  match cell with
  | .int n => checkedInt64 n
  | .float x =>
      match x.truncate? with
      | some n => checkedInt64 n
      | none => .error (.fault (if x.isNaN then .notWhole else .integerTooLarge))
  | _ => .error .otherKind

/-- A result that lies outside the calendar has no place in a table. -/
def inCalendar {α : Type} (value : Option α) : Except ConvertError α :=
  match value with
  | some value => .ok value
  | none => .error (.fault .integerTooLarge)

/-- A count of days since the epoch as a date. -/
def dateOfCount (n : Int) : Except ConvertError Date :=
  inCalendar (Date.ofDayNumber? (n + epochDay).toNat)

/-- A count of microseconds as a time of day. -/
def timeOfCount (n : Int) : Except ConvertError TimeOfDay := do
  let clock ← inCalendar (if n < 0 then none else Clock.ofMicroseconds? n.toNat)
  .ok ⟨clock, none⟩

/-- A count of microseconds since the epoch as a moment with an offset. -/
def momentOfCount (offset : Option Offset) (n : Int) : Except ConvertError DateTime :=
  inCalendar (DateTime.ofEpochMicroseconds? n offset)

/-- Texts are encoded. -/
def encode (s : String) : Except ConvertError Unit := (checkEncodable s).mapError .fault

/-- Converts a scalar to a type. -/
def convertScalar (type : ValueType) (cell : Cell) : Except ConvertError Cell :=
  match type, cell with
  | _, .missing => .ok .missing
  | .bool, .bool b => .ok (.bool b)
  | .string, .text s => do
      encode s
      .ok (.text s)
  | .int64, .int n => (checkedInt64 n).map .int
  | .double, .float x => .ok (.float x)
  | .double, .int n => do
      let n ← checkedInt64 n
      if isExact n then .ok (.float (Binary64.nearestInt n)) else .error .otherKind
  | .date, .date d => .ok (.date d)
  | .date, .dateTime t => .ok (.date t.date)
  | .date, cell => do
      let n ← countOf cell
      (dateOfCount n).map .date
  | .time, .time t => .ok (.time ⟨t.clock, none⟩)
  | .time, cell => do
      let n ← countOf cell
      (timeOfCount n).map .time
  | .timestamp offset, .dateTime t =>
      (momentOfCount offset t.epochMicroseconds).map .dateTime
  | .timestamp offset, cell => do
      let n ← countOf cell
      (momentOfCount offset n).map .dateTime
  | _, _ => .error .otherKind

mutual

/-- Converts a cell to a type. -/
def convert (type : ValueType) : Cell → Except ConvertError Cell
  | .list cells =>
      match type with
      | .list item => (convertAll item cells).map .list
      | _ => .error .otherKind
  | .record entries =>
      match type with
      | .struct types => do
          let converted ← convertFields types entries
          .ok (.record (types.map fun (field, _) =>
            (field, (converted.lookup field).getD .missing)))
      | _ => .error .otherKind
  | cell => convertScalar type cell

/-- Converts the cells of a list. -/
def convertAll (type : ValueType) : List Cell → Except ConvertError (List Cell)
  | [] => .ok []
  | cell :: rest => do
      let first ← convert type cell
      let others ← convertAll type rest
      .ok (first :: others)

/-- Converts the fields of a record. -/
def convertFields (types : List (String × ValueType)) :
    List (String × Cell) → Except ConvertError (List (String × Cell))
  | [] => .ok []
  | (field, cell) :: rest => do
      encode field
      let first ← convert ((types.lookup field).getD .null) cell
      let others ← convertFields types rest
      .ok ((field, first) :: others)

end

end TableFlow.Columnar
