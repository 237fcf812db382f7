import TableFlow.Decimal.Literal
import TableFlow.Row
import TableFlow.Text.CharClass

/-!
# Reading JSON

A document is one value with white space around it. Beyond the standard, the numbers that are not
finite have names. Numbers without a fraction and without an exponent are whole numbers of any
size up to `Decimal.digitLimit` digits. If a name occurs several times in an object, the last value
counts, in the place of the first one.

Each array and each object is read by a call inside the one around it, so they cannot be nested
deeper than `callLimit`.
-/

namespace TableFlow.Json

/-- Why a text is not a document. -/
inductive ReadError where
  /-- Something else is expected where so many characters remain. -/
  | unexpected (what : String) (remaining : Nat)
  /-- A whole number has too many digits. -/
  | numeralTooLong (digits : Nat)
  /-- Arrays and objects are nested too deeply. -/
  | tooDeep
deriving DecidableEq, Repr

/-- Reads a part of a document: gives a value and what follows. -/
abbrev Reader (α : Type) := List Char → Except ReadError (α × List Char)

/-- The error at the front of a text. -/
def unexpected {α : Type} (what : String) (cs : List Char) : Except ReadError α :=
  .error (.unexpected what cs.length)

def isSpace (c : Char) : Bool := c = ' ' || c = '\t' || c = '\n' || c = '\r'

def skipSpace (cs : List Char) : List Char := cs.dropWhile isSpace

/-- What follows a character that must be at the front. -/
def expect (c : Char) (what : String) : Reader Unit := fun cs =>
  match cs with
  | d :: rest => if d = c then .ok ((), rest) else unexpected what cs
  | [] => unexpected what cs

/-- What follows a word that stands at the front. -/
def word? (word : String) (cs : List Char) : Option (List Char) :=
  if word.toList.isPrefixOf cs then some (cs.drop word.length) else none

/-- The value of a hexadecimal digit. -/
def hexDigit? (c : Char) : Option Nat :=
  if '0' ≤ c && c ≤ '9' then some (c.toNat - '0'.toNat)
  else if 'a' ≤ c && c ≤ 'f' then some (c.toNat - 'a'.toNat + 10)
  else if 'A' ≤ c && c ≤ 'F' then some (c.toNat - 'A'.toNat + 10)
  else none

/-- The number that four hexadecimal digits denote. -/
def hexCode? (a b c d : Char) : Option Nat :=
  ([a, b, c, d].mapM hexDigit?).map (·.foldl (fun n d => 16 * n + d) 0)

def isHighSurrogate (code : Nat) : Bool := 0xD800 ≤ code && code < 0xDC00

def isLowSurrogate (code : Nat) : Bool := 0xDC00 ≤ code && code < 0xE000

/-- The character of a code point. -/
def charOfCode (code : Nat) : Char :=
  if isHighSurrogate code || isLowSurrogate code then Text.ofSurrogate code else Char.ofNat code

/-- The characters of code points; a high and a low surrogate together are one character. -/
def charsOfCodes : List Nat → List Char
  | [] => []
  | high :: low :: rest =>
      if isHighSurrogate high && isLowSurrogate low then
        Char.ofNat (0x10000 + (high - 0xD800) * 0x400 + (low - 0xDC00)) :: charsOfCodes rest
      else
        charOfCode high :: charsOfCodes (low :: rest)
  | [code] => [charOfCode code]

/-- The characters that a backslash and one character stand for. -/
def simpleEscapes : List (Char × Char) := [
  ('"', '"'), ('\\', '\\'), ('/', '/'), ('b', '\x08'), ('f', '\x0c'), ('n', '\n'), ('r', '\r'),
  ('t', '\t')]

/-- The result with a code point in front. -/
def prepend (code : Nat) (result : Except ReadError (List Nat × List Char)) :
    Except ReadError (List Nat × List Char) :=
  result.map fun (codes, rest) => (code :: codes, rest)

/-- Reads the code points of a string up to its closing quote. `opening` is the text from the
opening quote on. An escape sequence of four digits is never the end of the text. -/
def stringCodes (opening : List Char) : Reader (List Nat)
  | [] => unexpected "Unterminated string starting at" opening
  | '"' :: rest => .ok ([], rest)
  | ['\\'] => unexpected "Unterminated string starting at" opening
  | '\\' :: 'u' :: a :: b :: c :: d :: next :: rest =>
      match hexCode? a b c d with
      | some code => prepend code (stringCodes opening (next :: rest))
      | none => unexpected "Invalid \\uXXXX escape" ('u' :: a :: b :: c :: d :: next :: rest)
  | '\\' :: 'u' :: rest => unexpected "Invalid \\uXXXX escape" ('u' :: rest)
  | '\\' :: e :: rest =>
      match simpleEscapes.lookup e with
      | some c => prepend c.toNat (stringCodes opening rest)
      | none => unexpected "Invalid \\escape" ('\\' :: e :: rest)
  | c :: rest =>
      if c.toNat < 0x20 then unexpected "Invalid control character at" (c :: rest)
      else prepend c.toNat (stringCodes opening rest)

/-- Reads a string after its opening quote; `opening` is the text from that quote on. -/
def string (opening : List Char) : Reader String := fun cs => do
  let (codes, rest) ← stringCodes opening cs
  .ok (String.ofList (charsOfCodes codes), rest)

def isDigit (c : Char) : Bool := '0' ≤ c && c ≤ '9'

/-- The digits of a whole number at the front, which has no zeros in front of other digits. -/
def wholeDigits? (cs : List Char) : Option (List Char × List Char) :=
  match cs with
  | '0' :: rest => some (['0'], rest)
  | c :: _ => if isDigit c then some (cs.takeWhile isDigit, cs.dropWhile isDigit) else none
  | [] => none

/-- The point and the digits after it, empty if there are none. -/
def fractionPart (cs : List Char) : List Char × List Char :=
  match cs with
  | '.' :: rest =>
      if rest.head?.any isDigit then ('.' :: rest.takeWhile isDigit, rest.dropWhile isDigit)
      else ([], cs)
  | _ => ([], cs)

/-- The exponent, empty if there is none. -/
def exponentPart (cs : List Char) : List Char × List Char :=
  match cs with
  | mark :: rest =>
      let (sign, digits) := match rest with
        | '+' :: digits => (['+'], digits)
        | '-' :: digits => (['-'], digits)
        | digits => ([], digits)
      if (mark = 'e' ∨ mark = 'E') ∧ digits.head?.any isDigit then
        (mark :: (sign ++ digits.takeWhile isDigit), digits.dropWhile isDigit)
      else
        ([], cs)
  | [] => ([], cs)

/-- The whole number of digits. -/
def wholeCell (negative : Bool) (ds : List Char) : Except ReadError Cell :=
  if ds.length ≤ Decimal.digitLimit then
    .ok (.int (Binary64.signedUnits negative (Decimal.ofDigits (ds.map Decimal.digitValue))))
  else
    .error (.numeralTooLong ds.length)

/-- Reads a number. -/
def number : Reader Cell := fun cs =>
  let (negative, digits) := match cs with
    | '-' :: digits => (true, digits)
    | digits => (false, digits)
  match wholeDigits? digits with
  | none => unexpected "Expecting value" cs
  | some (whole, rest) =>
      let (fraction, rest) := fractionPart rest
      let (exponent, rest) := exponentPart rest
      if fraction.isEmpty && exponent.isEmpty then do
        let cell ← wholeCell negative whole
        .ok (cell, rest)
      else
        let numeral := (if negative then ['-'] else []) ++ whole ++ fraction ++ exponent
        .ok (.float ((Decimal.readBinary64? numeral).getD .nan), rest)

/-- The values that are written as words. -/
def wordValues : List (String × Cell) := [
  ("null", .missing), ("true", .bool true), ("false", .bool false), ("NaN", .float .nan),
  ("Infinity", .float (.infinite false)), ("-Infinity", .float (.infinite true))]

/-- Reads at most `fuel` elements up to the closing bracket. -/
def elements (value : Reader Cell) : Nat → Reader (List Cell)
  | 0 => unexpected "Expecting value"
  | fuel + 1 => fun cs => do
      let (cell, rest) ← value cs
      match skipSpace rest with
      | ']' :: rest => .ok ([cell], rest)
      | ',' :: rest => do
          let (others, rest) ← elements value fuel (skipSpace rest)
          .ok (cell :: others, rest)
      | rest => unexpected "Expecting ',' delimiter" rest

/-- Reads an array after its opening bracket. -/
def array (value : Reader Cell) : Reader Cell := fun cs =>
  match skipSpace cs with
  | ']' :: rest => .ok (.list [], rest)
  | start => do
      let (cells, rest) ← elements value start.length start
      .ok (.list cells, rest)

/-- Reads at most `fuel` members up to the closing brace. -/
def members (value : Reader Cell) : Nat → Reader (List (String × Cell))
  | 0 => unexpected "Expecting property name enclosed in double quotes"
  | fuel + 1 => fun cs => do
      let ((), rest) ← expect '"' "Expecting property name enclosed in double quotes" cs
      let (name, rest) ← string cs rest
      let ((), rest) ← expect ':' "Expecting ':' delimiter" (skipSpace rest)
      let (cell, rest) ← value (skipSpace rest)
      match skipSpace rest with
      | '\x7d' :: rest => .ok ([(name, cell)], rest)
      | ',' :: rest => do
          let (others, rest) ← members value fuel (skipSpace rest)
          .ok ((name, cell) :: others, rest)
      | rest => unexpected "Expecting ',' delimiter" rest

/-- Reads an object after its opening brace. -/
def object (value : Reader Cell) : Reader Cell := fun cs =>
  match skipSpace cs with
  | '\x7d' :: rest => .ok (.record [], rest)
  | start => do
      let (entries, rest) ← members value start.length start
      .ok (.record (Row.ofEntries entries).entries, rest)

/-- Reads a value with nothing inside: a string, a word or a number. -/
def scalar : Reader Cell := fun cs =>
  match cs with
  | '"' :: rest => do
      let (s, rest) ← string cs rest
      .ok (.text s, rest)
  | _ =>
      match wordValues.findSome? fun (name, cell) => (word? name cs).map ((cell, ·)) with
      | some found => .ok found
      | none => number cs

/-- Reads a value in which at most `nesting` arrays and objects are nested. -/
def value : Nat → Reader Cell
  | 0 => fun cs =>
      match cs with
      | '\x7b' :: _ | '[' :: _ => .error .tooDeep
      | _ => scalar cs
  | nesting + 1 => fun cs =>
      match cs with
      | '\x7b' :: rest => object (value nesting) rest
      | '[' :: rest => array (value nesting) rest
      | _ => scalar cs

/-- Reads a document. -/
def document (cs : List Char) : Except ReadError Cell := do
  if cs.head? = some '\ufeff' then
    unexpected "Unexpected UTF-8 BOM (decode using utf-8-sig)" cs
  else
    let (cell, rest) ← value callLimit (skipSpace cs)
    match skipSpace rest with
    | [] => .ok cell
    | rest => unexpected "Extra data" rest

/-- A position in a text as it is shown: line, column and offset. -/
def positionText (cs : List Char) (position : Nat) : String :=
  let before := cs.take position
  let line := before.count '\n' + 1
  let column := (before.reverse.takeWhile (· != '\n')).length + 1
  let numeral (n : Nat) : String := String.ofList (Decimal.numeral n)
  "line " ++ numeral line ++ " column " ++ numeral column ++ " (char " ++ numeral position ++ ")"

/-- The message of an error in a text; nesting that is too deep is not reported. -/
def ReadError.message? (cs : List Char) : ReadError → Option String
  | .unexpected what remaining => some (what ++ ": " ++ positionText cs (cs.length - remaining))
  | .numeralTooLong digits =>
      some ("Exceeds the limit (4300 digits) for integer string conversion: value has " ++
        String.ofList (Decimal.numeral digits) ++
        " digits; use sys.set_int_max_str_digits() to increase the limit")
  | .tooDeep => none

end TableFlow.Json
