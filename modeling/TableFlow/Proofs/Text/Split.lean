import Mathlib.Algebra.GroupWithZero.Nat
import Mathlib.Data.List.Infix
import TableFlow.Text.Split

/-!
# Splitting joined texts

Joining the pieces of a text gives the text. Splitting joined pieces gives the pieces only if none
of them holds the separator, and more is needed: occurrences are taken from the left, so the end of
a piece must not make up an occurrence together with the start of the separator behind it. With
`"::"` for a separator, a piece that ends with a colon loses it to the piece behind.

## Main results

* `join_splitOn`: joining the pieces of a text gives the text.
* `splitOn_join_eq_iff`: splitting joined pieces gives the pieces exactly if they are separable.
* `splitOn_singleton_eq_iff`: with one character for a separator, the pieces of a text are the ones
  without it that the text is joined from.
-/

namespace TableFlow.Text

variable {separator : List Char}

/-! ## One step -/

theorem splitSkipping_eq_drop (separator : List Char) (skip : Nat) (cs : List Char) :
    splitSkipping separator skip cs = splitOn separator (cs.drop skip) := by
  induction cs generalizing skip with
  | nil => cases skip <;> rfl
  | cons c rest ih =>
      cases skip with
      | zero => rfl
      | succ skip => exact ih skip

theorem splitOn_append_self (hSeparator : separator ≠ []) (rest : List Char) :
    splitOn separator (separator ++ rest) = [] :: splitOn separator rest := by
  obtain ⟨c, others, rfl⟩ := List.exists_cons_of_ne_nil hSeparator
  unfold splitOn
  rw [List.cons_append, splitSkipping, if_pos (by simp), splitSkipping_eq_drop]
  simp [splitOn]

theorem splitOn_cons_of_kept {c : Char} {rest : List Char}
    (h : ¬ separator <+: c :: rest) :
    splitOn separator (c :: rest) = (splitOn separator rest).modifyHead (c :: ·) := by
  unfold splitOn
  rw [splitSkipping, if_neg (by simpa using h)]

/-- Induction in the steps of splitting: an occurrence of the separator in front, or one character
if there is none in front. -/
@[elab_as_elim]
theorem splitting {motive : List Char → Prop} (hSeparator : separator ≠ []) (nil : motive [])
    (found : ∀ rest, motive rest → motive (separator ++ rest))
    (kept : ∀ c rest, ¬ separator <+: c :: rest → motive rest → motive (c :: rest))
    (cs : List Char) : motive cs := by
  match cs with
  | [] => exact nil
  | c :: rest =>
      by_cases hPrefix : separator <+: c :: rest
      · obtain ⟨after, hAfter⟩ := hPrefix
        have hShorter : after.length < (c :: rest).length := by
          rw [← hAfter, List.length_append]
          have hPos := List.length_pos_iff.2 hSeparator
          omega
        rw [← hAfter]
        exact found after (splitting hSeparator nil found kept after)
      · exact kept c rest hPrefix (splitting hSeparator nil found kept rest)
termination_by cs.length
decreasing_by
  · exact hShorter
  · exact Nat.lt_succ_self rest.length

/-! ## Joining the pieces of a text -/

theorem join_cons (separator piece : List Char) {pieces : List (List Char)} (h : pieces ≠ []) :
    join separator (piece :: pieces) = piece ++ separator ++ join separator pieces := by
  cases pieces with
  | nil => exact absurd rfl h
  | cons next others => rfl

theorem join_modifyHead_cons (separator : List Char) (c : Char) {pieces : List (List Char)}
    (h : pieces ≠ []) :
    join separator (pieces.modifyHead (c :: ·)) = c :: join separator pieces := by
  cases pieces with
  | nil => exact absurd rfl h
  | cons piece others => cases others <;> rfl

theorem join_eq_intercalate (separator : List Char) (pieces : List (List Char)) :
    join separator pieces = separator.intercalate pieces := by
  induction pieces with
  | nil => rfl
  | cons piece pieces ih =>
      by_cases hLast : pieces = []
      · subst hLast
        rw [List.intercalate_singleton]
        rfl
      · rw [join_cons _ _ hLast, List.intercalate_cons_of_ne_nil hLast, ih]

/-- A piece of a joined text, what stands before it, and the separator behind it if it is not the
last one. -/
theorem exists_join_eq (separator : List Char) {pieces : List (List Char)} {j : Nat}
    {piece : List Char} (h : pieces[j]? = some piece) :
    ∃ front back, join separator pieces = front ++ piece ++ back ∧
      front.length = ((pieces.take j).map fun before => before.length + separator.length).sum ∧
      (j + 1 < pieces.length → separator <+: back) := by
  induction j generalizing pieces with
  | zero =>
      cases pieces with
      | nil => cases h
      | cons first rest =>
          cases h
          by_cases hLast : rest = []
          · refine ⟨[], [], ?_, rfl, fun hMore => ?_⟩
            · rw [hLast, List.nil_append, List.append_nil]
              rfl
            · simp [hLast] at hMore
          · refine ⟨[], separator ++ join separator rest, ?_, rfl, fun _ =>
              List.prefix_append _ _⟩
            rw [join_cons _ _ hLast, List.nil_append, List.append_assoc]
  | succ j ih =>
      cases pieces with
      | nil => cases h
      | cons first rest =>
          rw [List.getElem?_cons_succ] at h
          obtain ⟨front, back, hJoin, hLength, hBack⟩ := ih h
          have hMore : rest ≠ [] := by
            rintro rfl
            cases h
          refine ⟨first ++ separator ++ front, back, ?_, ?_, fun hInside => ?_⟩
          · rw [join_cons _ _ hMore, hJoin]
            simp only [List.append_assoc]
          · rw [List.length_append, List.length_append, hLength, List.take_succ_cons, List.map_cons,
              List.sum_cons]
          · rw [List.length_cons] at hInside
            exact hBack (by omega)

theorem subset_join {piece : List Char} {pieces : List (List Char)} (h : piece ∈ pieces) :
    piece ⊆ join separator pieces := by
  induction pieces with
  | nil => cases h
  | cons next pieces ih =>
      by_cases hLast : pieces = []
      · subst hLast
        rw [List.mem_singleton.1 h]
        exact List.Subset.refl _
      · rw [join_cons _ _ hLast, List.append_assoc]
        rcases List.mem_cons.1 h with rfl | hLater
        · exact List.subset_append_left _ _
        · exact List.subset_append_of_subset_right _
            (List.subset_append_of_subset_right _ (ih hLater))

/-- Joining the pieces of a text gives the text. -/
theorem join_splitOn (hSeparator : separator ≠ []) (cs : List Char) :
    join separator (splitOn separator cs) = cs := by
  induction cs using splitting hSeparator with
  | nil => rfl
  | found rest ih =>
      rw [splitOn_append_self hSeparator, join_cons _ _ (splitOn_ne_nil _ _), ih, List.nil_append]
  | kept c rest hPrefix ih =>
      rw [splitOn_cons_of_kept hPrefix, join_modifyHead_cons _ _ (splitOn_ne_nil _ _), ih]

/-! ## Splitting joined pieces -/

/-- Pieces that joining keeps apart: the first occurrence of the separator behind a piece is the
one that joining puts there, and there is none in the last piece. -/
def Separable (separator : List Char) : List (List Char) → Prop
  | [] => False
  | [piece] => ¬ separator <:+: piece
  | piece :: pieces => ¬ separator <:+: piece ++ separator.dropLast ∧ Separable separator pieces

theorem separable_cons {piece : List Char} {pieces : List (List Char)} (h : pieces ≠ []) :
    Separable separator (piece :: pieces) ↔
      ¬ separator <:+: piece ++ separator.dropLast ∧ Separable separator pieces := by
  cases pieces with
  | nil => exact absurd rfl h
  | cons next others => rfl

theorem dropLast_prefix_append (piece rest : List Char) :
    piece ++ separator.dropLast <+: piece ++ separator ++ rest := by
  rw [List.append_assoc]
  exact (List.prefix_append_right_inj piece).2
    ((List.dropLast_prefix separator).trans (List.prefix_append separator rest))

/-- The separator is not in front of a piece and what follows it, if it does not begin within the
piece. -/
theorem not_separator_prefix_cons {c : Char} {piece rest : List Char}
    (h : ¬ separator <:+: c :: piece ++ separator.dropLast) :
    ¬ separator <+: c :: (piece ++ separator ++ rest) := by
  intro hPrefix
  have hLength : separator.length ≤ (c :: piece ++ separator.dropLast).length := by
    simp only [List.length_append, List.length_cons, List.length_dropLast]
    omega
  exact h (List.prefix_of_prefix_length_le hPrefix
    (dropLast_prefix_append (c :: piece) rest) hLength).isInfix

/-- A piece that the separator does not begin within is split off. -/
theorem splitOn_append_separator (hSeparator : separator ≠ []) {piece : List Char}
    (h : ¬ separator <:+: piece ++ separator.dropLast) (rest : List Char) :
    splitOn separator (piece ++ separator ++ rest) = piece :: splitOn separator rest := by
  induction piece with
  | nil => exact splitOn_append_self hSeparator rest
  | cons c piece ih =>
      have hLater : ¬ separator <:+: piece ++ separator.dropLast :=
        fun hInfix => h (List.infix_cons hInfix)
      rw [List.cons_append, List.cons_append,
        splitOn_cons_of_kept (not_separator_prefix_cons h), ih hLater]
      rfl

/-- A text without the separator is one piece. -/
theorem splitOn_eq_singleton {piece : List Char} (h : ¬ separator <:+: piece) :
    splitOn separator piece = [piece] := by
  induction piece with
  | nil => rfl
  | cons c piece ih =>
      have hLater : ¬ separator <:+: piece := fun hInfix => h (List.infix_cons hInfix)
      rw [splitOn_cons_of_kept (fun hPrefix => h hPrefix.isInfix), ih hLater]
      rfl

theorem splitOn_join (hSeparator : separator ≠ []) {pieces : List (List Char)}
    (h : Separable separator pieces) : splitOn separator (join separator pieces) = pieces := by
  induction pieces with
  | nil => exact h.elim
  | cons piece pieces ih =>
      by_cases hLast : pieces = []
      · subst hLast
        exact splitOn_eq_singleton h
      · obtain ⟨hPiece, hPieces⟩ := (separable_cons hLast).1 h
        rw [join_cons _ _ hLast, splitOn_append_separator hSeparator hPiece, ih hPieces]

/-- The pieces of a text are separable. -/
theorem separable_splitOn (hSeparator : separator ≠ []) (cs : List Char) :
    Separable separator (splitOn separator cs) := by
  induction cs using splitting hSeparator with
  | nil => simpa [splitOn, splitSkipping, Separable] using hSeparator
  | found rest ih =>
      rw [splitOn_append_self hSeparator, separable_cons (splitOn_ne_nil _ _)]
      refine ⟨fun hInfix => ?_, ih⟩
      have hLength := hInfix.length_le
      have hPos := List.length_pos_iff.2 hSeparator
      rw [List.nil_append, List.length_dropLast] at hLength
      omega
  | kept c rest hPrefix ih =>
      rw [splitOn_cons_of_kept hPrefix]
      have hRest := join_splitOn hSeparator rest
      obtain ⟨piece, pieces, hPieces⟩ :=
        List.exists_cons_of_ne_nil (splitOn_ne_nil separator rest)
      rw [hPieces] at ih hRest ⊢
      rw [List.modifyHead_cons]
      by_cases hLast : pieces = []
      · subst hLast
        have hWhole : piece = rest := hRest
        rw [← hWhole] at hPrefix
        exact fun hInfix => (List.infix_cons_iff.1 hInfix).elim hPrefix ih
      · rw [separable_cons hLast] at ih ⊢
        refine ⟨fun hInfix => ?_, ih.2⟩
        rcases List.infix_cons_iff.1 hInfix with hFront | hLater
        · rw [join_cons _ _ hLast] at hRest
          rw [← hRest] at hPrefix
          exact hPrefix (hFront.trans (dropLast_prefix_append (c :: piece) _))
        · exact ih.1 hLater

/-- **Splitting joined pieces gives the pieces exactly if they are separable.** -/
theorem splitOn_join_eq_iff (hSeparator : separator ≠ []) {pieces : List (List Char)} :
    splitOn separator (join separator pieces) = pieces ↔ Separable separator pieces := by
  constructor
  · intro hSame
    rw [← hSame]
    exact separable_splitOn hSeparator _
  · exact splitOn_join hSeparator

/-! ## A single character as separator -/

variable {mark : Char}

theorem separable_singleton_iff {pieces : List (List Char)} :
    Separable [mark] pieces ↔ pieces ≠ [] ∧ ∀ piece ∈ pieces, mark ∉ piece := by
  induction pieces with
  | nil => simp [Separable]
  | cons piece pieces ih =>
      by_cases hLast : pieces = []
      · subst hLast
        simp [Separable, List.singleton_infix_iff]
      · simp [separable_cons hLast, ih, hLast, List.singleton_infix_iff]

/-- The pieces of a text between the occurrences of a character. -/
theorem splitOn_singleton_eq_iff {cs : List Char} {pieces : List (List Char)} :
    splitOn [mark] cs = pieces ↔
      cs = join [mark] pieces ∧ pieces ≠ [] ∧ ∀ piece ∈ pieces, mark ∉ piece := by
  have hSeparator : [mark] ≠ [] := List.cons_ne_nil _ _
  rw [← separable_singleton_iff]
  constructor
  · rintro rfl
    exact ⟨(join_splitOn hSeparator cs).symm, separable_splitOn hSeparator cs⟩
  · rintro ⟨rfl, hSeparable⟩
    exact splitOn_join hSeparator hSeparable

/-! ## Cutting once -/

/-- A text is not cut exactly if the mark does not occur in it. -/
theorem cutFirst?_eq_none_iff {cs : List Char} :
    cutFirst? mark cs = none ↔ mark ∉ cs := by
  induction cs with
  | nil => simp [cutFirst?]
  | cons c cs ih =>
      by_cases hMark : c = mark
      · simp [cutFirst?, hMark]
      · simp [cutFirst?, hMark, Ne.symm hMark, ih]

/-- A text is cut at the first occurrence of a character. -/
theorem cutFirst?_eq_some_iff {cs before after : List Char} :
    cutFirst? mark cs = some (before, after) ↔ cs = before ++ mark :: after ∧ mark ∉ before := by
  refine ⟨fun hCut => ?_, fun ⟨hText, hBefore⟩ => hText ▸ cutFirst?_eq_some after hBefore⟩
  induction cs generalizing before with
  | nil => simp [cutFirst?] at hCut
  | cons c cs ih =>
      by_cases hMark : c = mark
      · obtain ⟨rfl, rfl⟩ : [] = before ∧ cs = after := by simpa [cutFirst?, hMark] using hCut
        simp [hMark]
      · simp only [cutFirst?, hMark, if_false, Option.map_eq_some_iff, Prod.mk.injEq] at hCut
        obtain ⟨⟨front, back⟩, hRest, rfl, rfl⟩ := hCut
        obtain ⟨hText, hFront⟩ := ih hRest
        exact ⟨by rw [hText, List.cons_append], by simp [Ne.symm hMark, hFront]⟩

theorem cutLast?_eq_none_iff {cs : List Char} : cutLast? mark cs = none ↔ mark ∉ cs := by
  induction cs with
  | nil => simp [cutLast?]
  | cons c cs ih =>
      cases hRest : cutLast? mark cs with
      | none => simp [cutLast?, hRest, ih.1 hRest, eq_comm]
      | some parts =>
          have hMark : mark ∈ cs := Decidable.not_not.1 fun hNone => by
            rw [ih.2 hNone] at hRest
            cases hRest
          simp [cutLast?, hRest, hMark]

/-- A text is cut at the last occurrence of a character. -/
theorem cutLast?_eq_some (before : List Char) {after : List Char} (h : mark ∉ after) :
    cutLast? mark (before ++ mark :: after) = some (before, after) := by
  induction before with
  | nil => simp [cutLast?, cutLast?_eq_none_iff.2 h]
  | cons c before ih => simp [cutLast?, ih]

end TableFlow.Text
