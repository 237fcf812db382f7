import TableFlow.Text.CharClass

/-!
# Lines and words of text

A text is cut into lines behind the characters that end a line, and into words behind white space.
Files are read with every line end as a line feed.

## Main results

* `unifyNewlines_eq_self`: text without carriage returns is read as it is.
-/

namespace TableFlow.Text

/-- The characters that end a line; a carriage return and the line feed after it end one line. -/
def lineEnds : List Char :=
  ['\n', '\r', '\x0b', '\x0c', '\x1c', '\x1d', '\x1e', '\u0085', '\u2028', '\u2029']

/-- The lines of a text, each with what ends it. -/
def lines : List Char → List (List Char)
  | [] => []
  | '\r' :: '\n' :: rest => ['\r', '\n'] :: lines rest
  | c :: rest =>
      if c ∈ lineEnds then
        [c] :: lines rest
      else
        match lines rest with
        | [] => [[c]]
        | line :: others => (c :: line) :: others

/-- Tells if a character ends a word: it is white space and something else follows. -/
def endsWord (c : Char) (next : List Char) : Bool := isBlank c && !(next.head?.all isBlank)

/-- The words of a text, each with the white space after it; white space at the start of the text
is a word of its own. -/
def words : List Char → List (List Char)
  | [] => []
  | c :: rest =>
      match words rest with
      | [] => [[c]]
      | word :: others =>
          if endsWord c word then [c] :: word :: others else (c :: word) :: others

/-- A text in which a carriage return, alone or with the line feed after it, is a line feed. -/
def unifyNewlines : List Char → List Char
  | [] => []
  | '\r' :: '\n' :: rest => '\n' :: unifyNewlines rest
  | '\r' :: rest => '\n' :: unifyNewlines rest
  | c :: rest => c :: unifyNewlines rest

/-- Text without carriage returns is left as it is. -/
theorem unifyNewlines_eq_self {cs : List Char} (h : '\r' ∉ cs) : unifyNewlines cs = cs := by
  induction cs with
  | nil => rfl
  | cons c rest ih =>
    rw [List.mem_cons, not_or] at h
    rw [unifyNewlines, ih h.2]
    · exact fun _ hc _ => h.1 hc.symm
    · exact fun hc => h.1 hc.symm

end TableFlow.Text
