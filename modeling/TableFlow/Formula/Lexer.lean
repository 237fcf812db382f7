import TableFlow.Decimal.Literal
import TableFlow.Formula.Token
import TableFlow.Text.Case
import TableFlow.Text.CharClass

/-!
# From text to tokens

At each position the first reader that succeeds, in the order of `readers`, takes as much text as
it can. White space gives no token. Names that are not words stand between square brackets; a name
between brackets is never a keyword.
-/

namespace TableFlow.Formula

/-- A character where no token starts, with its position. -/
structure LexError where
  character : Char
  position : Nat
deriving DecidableEq, Repr

def LexError.message (e : LexError) : String :=
  "Unexpected character " ++ Text.quote e.character.toString ++ " at position " ++
    String.ofList (Decimal.numeral e.position)

namespace Lexer

/-- A piece of text that was read, with its token if it has one, and the text after it. -/
abbrev Lexeme := Option Token × List Char

def readBlanks? (cs : List Char) : Option Lexeme :=
  match cs with
  | c :: rest => if Text.isBlank c then some (none, rest.dropWhile Text.isBlank) else none
  | [] => none

def readNumber? (cs : List Char) : Option Lexeme :=
  (Decimal.scanUnsigned? cs).map fun (_, rest) =>
    (some ⟨.literal, String.ofList (cs.take (cs.length - rest.length))⟩, rest)

/-- The text up to the next quotation mark that is not escaped, the mark included, and what
follows. A backslash escapes any character but a line feed. -/
def readQuoted? (mark : Char) : List Char → Option (List Char × List Char)
  | [] => none
  | '\\' :: c :: rest =>
      if c = '\n' then none
      else (readQuoted? mark rest).map fun (inner, after) => ('\\' :: c :: inner, after)
  | ['\\'] => none
  | c :: rest =>
      if c = mark then some ([c], rest)
      else (readQuoted? mark rest).map fun (inner, after) => (c :: inner, after)

def readText? (cs : List Char) : Option Lexeme :=
  match cs with
  | mark :: rest =>
      if mark = '\'' ∨ mark = '"' then
        (readQuoted? mark rest).map fun (inner, after) =>
          (some ⟨.literal, String.ofList (mark :: inner)⟩, after)
      else
        none
  | [] => none

def readBracketed? (cs : List Char) : Option Lexeme :=
  match cs with
  | '[' :: rest =>
      match rest.takeWhile (· != ']'), rest.dropWhile (· != ']') with
      | [], _ => none
      | name, ']' :: after => some (some ⟨.identifier, String.ofList (Text.strip name)⟩, after)
      | _, _ => none
  | _ => none

/-- Tells if a word may start with the character. -/
def startsWord (c : Char) : Bool := c.isAlpha || c == '_'

/-- Tells if a word may go on with the character. -/
def continuesWord (c : Char) : Bool := c.isAlphanum || c == '_'

def keywordOperators : List String := ["AND", "OR", "NOT"]

def keywordLiterals : List String := ["TRUE", "FALSE", "NULL"]

/-- The token of a word; keywords are known in any case. -/
def wordToken (word : String) : Token :=
  let upper := word.toUpper
  if upper ∈ keywordOperators then ⟨.operator, upper⟩
  else if upper ∈ keywordLiterals then ⟨.literal, upper⟩
  else ⟨.identifier, word⟩

def readWord? (cs : List Char) : Option Lexeme :=
  match cs with
  | c :: rest =>
      if startsWord c then
        some (some (wordToken (String.ofList (c :: rest.takeWhile continuesWord))),
          rest.dropWhile continuesWord)
      else
        none
  | [] => none

/-- The operators of two characters, with the values of their tokens. -/
def longOperators : List (Char × Char × String) := [
  ('<', '=', "<="), ('>', '=', ">="), ('<', '>', "<>"), ('!', '=', "!="), ('=', '=', "=="),
  ('&', '&', "AND"), ('|', '|', "OR")]

/-- The operators of one character. -/
def shortOperators : List Char := ['-', '+', '*', '/', '%', '<', '>', '=']

def readLongOperator? (cs : List Char) : Option Lexeme :=
  match cs with
  | c :: d :: rest =>
      (longOperators.find? fun (first, second, _) => first == c && second == d).map
        fun (_, _, value) => (some ⟨.operator, value⟩, rest)
  | _ => none

def readShortOperator? (cs : List Char) : Option Lexeme :=
  match cs with
  | c :: rest =>
      if c ∈ shortOperators then some (some ⟨.operator, c.toString⟩, rest) else none
  | [] => none

def readPunctuation? (cs : List Char) : Option Lexeme :=
  match cs with
  | c :: rest =>
      if c ∈ ['(', ')', ','] then some (some ⟨.punctuation, c.toString⟩, rest) else none
  | [] => none

/-- The readers in the order in which they are tried. -/
def readers : List (List Char → Option Lexeme) := [
  readBlanks?, readNumber?, readText?, readBracketed?, readWord?, readLongOperator?,
  readShortOperator?, readPunctuation?]

/-- The lexeme at the start of a text. -/
def lexeme? (cs : List Char) : Option Lexeme := readers.findSome? fun read => read cs

/-- The tokens of a text that starts at a position; `fuel` bounds the length of the text. -/
def tokensFrom : Nat → Nat → List Char → Except LexError (List Token)
  | 0, _, _ => .ok [.endOfFormula]
  | _, _, [] => .ok [.endOfFormula]
  | fuel + 1, position, cs@(c :: _) =>
      match lexeme? cs with
      | none => .error ⟨c, position⟩
      | some (token, rest) => do
          let tokens ← tokensFrom fuel (position + (cs.length - rest.length)) rest
          .ok (token.toList ++ tokens)

end Lexer

/-- The tokens of a formula, the end of the formula as the last one. -/
def tokenize (text : String) : Except LexError (List Token) :=
  Lexer.tokensFrom text.length 0 text.toList

end TableFlow.Formula
