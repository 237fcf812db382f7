/-!
# Splitting and joining text

`splitOn` cuts a text at every occurrence of a separator, occurrences being taken from the left and
without overlap; the other functions cut once.

## Main results

* `splitOn_ne_nil`: there is at least one piece.
* `cutFirst?_eq_some`: a text is cut at the first occurrence of a character.
-/

namespace TableFlow.Text

/-- The pieces of a text between the occurrences of a separator, the first `skip` characters of the
text left out. -/
def splitSkipping (separator : List Char) : Nat → List Char → List (List Char)
  | _, [] => [[]]
  | skip + 1, _ :: rest => splitSkipping separator skip rest
  | 0, c :: rest =>
      if separator.isPrefixOf (c :: rest) then
        [] :: splitSkipping separator (separator.length - 1) rest
      else
        (splitSkipping separator 0 rest).modifyHead (c :: ·)

/-- The pieces of a text between the occurrences of a separator. -/
def splitOn (separator cs : List Char) : List (List Char) := splitSkipping separator 0 cs

theorem splitSkipping_ne_nil (separator : List Char) (skip : Nat) (cs : List Char) :
    splitSkipping separator skip cs ≠ [] := by
  induction cs generalizing skip with
  | nil => simp [splitSkipping]
  | cons c rest ih =>
    cases skip with
    | succ skip => exact ih skip
    | zero =>
      unfold splitSkipping
      split
      · exact List.cons_ne_nil _ _
      · cases h : splitSkipping separator 0 rest with
        | nil => exact absurd h (ih 0)
        | cons piece pieces => simp

theorem splitOn_ne_nil (separator cs : List Char) : splitOn separator cs ≠ [] :=
  splitSkipping_ne_nil separator 0 cs

/-- Texts with a separator between every two of them. -/
def join (separator : List Char) : List (List Char) → List Char
  | [] => []
  | [piece] => piece
  | piece :: pieces => piece ++ separator ++ join separator pieces

/-- The parts before and after the first occurrence of a character. -/
def cutFirst? (mark : Char) : List Char → Option (List Char × List Char)
  | [] => none
  | c :: rest =>
      if c = mark then some ([], rest)
      else (cutFirst? mark rest).map fun (before, after) => (c :: before, after)

/-- The parts before and after the last occurrence of a character. -/
def cutLast? (mark : Char) : List Char → Option (List Char × List Char)
  | [] => none
  | c :: rest =>
      match cutLast? mark rest with
      | some (before, after) => some (c :: before, after)
      | none => if c = mark then some ([], rest) else none

theorem cutFirst?_eq_some {mark : Char} {before : List Char} (after : List Char)
    (h : mark ∉ before) : cutFirst? mark (before ++ mark :: after) = some (before, after) := by
  induction before with
  | nil => simp [cutFirst?]
  | cons c rest ih =>
    rw [List.mem_cons, not_or] at h
    simp [cutFirst?, Ne.symm h.1, ih h.2]

/-- Tells if one text occurs in another. -/
def contains (piece : List Char) : List Char → Bool
  | [] => piece.isEmpty
  | cs@(_ :: rest) => piece.isPrefixOf cs || contains piece rest

/-- Replaces every occurrence of a character. -/
def replaceChar (old : Char) (new cs : List Char) : List Char :=
  cs.flatMap fun c => if c = old then new else [c]

end TableFlow.Text
