/-!
# Records of delimited text

The records are those that Arrow's reader of delimited text documents, with double quotes and line
ends allowed in values. A record is a line of fields with a delimiter between them. A field that
starts with a double quote may hold delimiters and line ends up to the closing quote; in it a double
quote is written twice. What follows the closing quote belongs to the field as it is. Line ends are
a carriage return, a line feed, or both; lines without any character are no records.
-/

namespace TableFlow.Delimited

/-- Where in a field the reading is. -/
inductive Place where
  | start
  | plain
  | quoted
  /-- After a double quote in a quoted part: it closes the part unless another one follows. -/
  | quote
deriving DecidableEq, Repr

/-- A character without a meaning of its own, or the end of the field or of the line. -/
inductive Step where
  | part
  | endOfField
  | endOfLine
deriving DecidableEq, Repr

/-- What a character outside of quotes means. -/
def stepOf (delimiter c : Char) : Step :=
  if c = '\n' ∨ c = '\r' then .endOfLine else if c = delimiter then .endOfField else .part

/-- What follows a line that ended with a character: a line feed after a carriage return belongs to
the end of the line. -/
def afterLine (c : Char) (rest : List Char) : List Char :=
  match rest with
  | '\n' :: after => if c = '\r' then after else rest
  | _ => rest

/-- Reads one record: its fields and what follows its line. `field` and `fields` are what has been
read of the current field and the fields before it, in reverse. -/
def readFields (delimiter : Char) (place : Place) (field : List Char) (fields : List (List Char)) :
    List Char → List (List Char) × List Char
  | [] => ((field.reverse :: fields).reverse, [])
  | c :: rest =>
      if place = .quoted then
        if c = '"' then readFields delimiter .quote field fields rest
        else readFields delimiter .quoted (c :: field) fields rest
      else if place = .start ∧ c = '"' then
        readFields delimiter .quoted field fields rest
      else if place = .quote ∧ c = '"' then
        readFields delimiter .quoted (c :: field) fields rest
      else
        match stepOf delimiter c with
        | .part => readFields delimiter .plain (c :: field) fields rest
        | .endOfField => readFields delimiter .start [] (field.reverse :: fields) rest
        | .endOfLine => ((field.reverse :: fields).reverse, afterLine c rest)

/-- Tells if a character ends a line. -/
def endsLine (c : Char) : Bool := c = '\n' || c = '\r'

/-- A record: its fields, and its line without the end of the line. -/
structure Record where
  fields : List (List Char)
  line : List Char

/-- A line without what ends it. -/
def dropLineEnd (line : List Char) : List Char :=
  match line.reverse with
  | '\n' :: '\r' :: before => before.reverse
  | '\n' :: before => before.reverse
  | '\r' :: before => before.reverse
  | _ => line

/-- The records of a text. A record takes at least one character, so the length of the text is
`fuel` enough. -/
def recordsFrom (delimiter : Char) : Nat → List Char → List Record
  | 0, _ => []
  | fuel + 1, cs =>
      match cs.dropWhile endsLine with
      | [] => []
      | start =>
          let (fields, rest) := readFields delimiter .start [] [] start
          ⟨fields, dropLineEnd (start.take (start.length - rest.length))⟩ ::
            recordsFrom delimiter fuel rest

/-- The character that may mark the start of a text and is no part of it. -/
def byteOrderMark : Char := '\ufeff'

/-- A text without the mark at its start. -/
def dropMark : List Char → List Char
  | c :: rest => if c = byteOrderMark then rest else c :: rest
  | [] => []

/-- The records of a text. -/
def records (delimiter : Char) (text : String) : List Record :=
  recordsFrom delimiter text.length (dropMark text.toList)

end TableFlow.Delimited
