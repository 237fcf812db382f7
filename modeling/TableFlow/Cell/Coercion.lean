import TableFlow.Binary64.Order
import TableFlow.Calendar.Iso
import TableFlow.Calendar.Iso.Reader
import TableFlow.Calendar.Layouts
import TableFlow.Cell.Literal
import TableFlow.Decimal.Literal
import TableFlow.Text.CharClass

/-!
# Texts, numbers and dates of cells

Since columns have no types, stages that compare, group or reduce cells use one of three views of a
cell: its text, its number, and the date it gives. Texts that leave the program are encoded, which
fails for those that hold surrogates.

## Main results

* `Cell.toText_text`: a text is its own text.
* `encodingError?_eq_none_iff`: a text without surrogates is encoded, and no other one is.
-/

namespace TableFlow

/-- Whole binary64 numbers below this size are written without a fraction part. -/
def wholeTextBound : Int := 10 ^ 16

/-- The text of a binary64 number: like a whole number if it is one and not too large. -/
def Binary64.cellText (x : Binary64) : String :=
  match x with
  | .nan => "NaN"
  | .infinite false => "Infinity"
  | .infinite true => "-Infinity"
  | .finite .. =>
      match x.toInt? with
      | some n =>
          if n.natAbs < wholeTextBound.natAbs then String.ofList (Decimal.signedNumeral n)
          else x.text literalLayout
      | none => x.text literalLayout

namespace Cell

/-- The text of a cell: empty for a missing one, dates and times in ISO 8601 form, and lists and
records as literals. Numbers that are equal have equal texts as long as they are not too large. -/
def toText : Cell → Except Fault String
  | .missing => .ok ""
  | .bool b => .ok (if b then "true" else "false")
  | .int n => intNumeral n
  | .float x => .ok x.cellText
  | .text s => .ok s
  | .date d => .ok d.isoText
  | .dateTime t => .ok t.isoText
  | .time t => .ok t.isoText
  | cell@(.list _) | cell@(.record _) => cell.literal

theorem toText_text (s : String) : (Cell.text s).toText = .ok s := rfl

/-- The number that a text gives: a decimal literal, white space around it left out. -/
def numberOfText (s : String) : Binary64 :=
  (Decimal.readBinary64? (Text.strip s.toList)).getD .nan

/-- The number of a cell, NaN if it gives none. Booleans give no number. -/
def toNumber : Cell → Except Fault Binary64
  | .int n => (Binary64.ofInt? n).elim (.error .integerTooLarge) .ok
  | .float x => .ok x
  | .text s => .ok (numberOfText s)
  | _ => .ok .nan

/-- Tells if a cell gives a finite number. -/
def givesFiniteNumber (cell : Cell) : Except Fault Bool := do
  let x ← cell.toNumber
  .ok x.isFinite

/-- The date that a text gives, in ISO 8601 form or in one of the written layouts. -/
def dateOfText? (s : String) : Option Calendar.DateTime :=
  let cs := Text.strip s.toList
  (Calendar.DateTime.ofIso? cs).or ((Calendar.Date.ofLayouts? cs).map (·.midnight))

/-- The date or date and time that a cell gives, as a cell. -/
def toDate? : Cell → Option Cell
  | .date d => some (.date d)
  | .dateTime t => some (.dateTime t)
  | .text s => (dateOfText? s).map .dateTime
  | _ => none

end Cell

/-! ## Encoding -/

/-- The message about the first surrogates of a text, if it holds any. -/
def encodingError? (cs : List Char) : Option String :=
  let first := (cs.takeWhile (!Text.isSurrogate ·)).length
  match cs.drop first with
  | [] => none
  | c :: rest =>
      let numeral (n : Nat) : String := String.ofList (Decimal.numeral n)
      let more := (rest.takeWhile Text.isSurrogate).length
      let what :=
        if more = 0 then
          "character '" ++ String.ofList (Text.escapeCode c) ++ "' in position " ++ numeral first
        else "characters in position " ++ numeral first ++ "-" ++ numeral (first + more)
      some ("'utf-8' codec can't encode " ++ what ++ ": surrogates not allowed")

/-- Fails for a text that cannot be encoded. -/
def checkEncodable (s : String) : Except Fault Unit :=
  match encodingError? s.toList with
  | none => .ok ()
  | some message => .error (.notEncodable message)

theorem encodingError?_eq_none_iff (cs : List Char) :
    encodingError? cs = none ↔ Text.isEncodable cs := by
  induction cs with
  | nil => exact iff_of_true rfl rfl
  | cons c cs ih =>
      cases hFirst : Text.isSurrogate c with
      | true => simp [encodingError?, Text.isEncodable, hFirst]
      | false =>
          have hRest : encodingError? (c :: cs) = none ↔ encodingError? cs = none := by
            simp only [encodingError?, List.takeWhile_cons, hFirst, Bool.not_false, if_true,
              List.length_cons, List.drop_succ_cons]
            split <;> simp
          rw [hRest, ih]
          simp [Text.isEncodable, hFirst]

end TableFlow
