import Mathlib.Data.List.Basic
import TableFlow.Text.Lines
import TableFlow.Text.Quoted

/-!
# Lines of put together texts

Which characters end a line depends on who reads the text: the line feed does for every reader, and
some of the others in `lineEnds` do for some. A line feed ends a line whatever stands before it, so
the lines of a text are those of the part up to a line feed and those of the part behind it.

## Main results

* `linesEndedBy_append_lineFeed`: the lines of a text with a line feed in it.
* `withoutComments_intercalate`: what is left of texts that are put on lines of their own.
* `disjoint_quote`: quoted text does not end a line for any reader.
-/

namespace TableFlow.Text

/-- Tells if a character ends a line for a reader to whom the characters `ends` end lines. A
carriage return does not if a line feed follows: the two end one line. -/
def endsLine (ends : List Char) (c : Char) (next : List Char) : Bool :=
  c ∈ ends && !(c == '\r' && next.head? == some '\n')

/-- The lines of a text, each with what ends it, for a reader to whom some characters end lines. -/
def linesEndedBy (ends : List Char) : List Char → List (List Char)
  | [] => []
  | c :: rest =>
      match linesEndedBy ends rest with
      | [] => [[c]]
      | line :: others =>
          if endsLine ends c rest then [c] :: line :: others else (c :: line) :: others

variable {ends : List Char}

theorem linesEndedBy_ne_nil {cs : List Char} (h : cs ≠ []) : linesEndedBy ends cs ≠ [] := by
  cases cs with
  | nil => exact absurd rfl h
  | cons c rest =>
      unfold linesEndedBy
      split
      · exact List.cons_ne_nil _ _
      · split <;> exact List.cons_ne_nil _ _

theorem linesEndedBy_cons_of_endsLine {c : Char} {rest : List Char} (h : endsLine ends c rest) :
    linesEndedBy ends (c :: rest) = [c] :: linesEndedBy ends rest := by
  rw [linesEndedBy]
  split
  · next hLines => rw [hLines]
  · next hLines => rw [hLines, if_pos h]

theorem linesEndedBy_cons_of_not_endsLine {c : Char} {rest : List Char}
    (h : ¬ endsLine ends c rest) :
    linesEndedBy ends (c :: rest) =
      (c :: (linesEndedBy ends rest).headD []) :: (linesEndedBy ends rest).tail := by
  rw [linesEndedBy]
  split
  · next hLines =>
    rw [hLines]
    rfl
  · next hLines =>
    rw [hLines, if_neg h]
    rfl

theorem ne_nil_of_mem_linesEndedBy {cs line : List Char} (h : line ∈ linesEndedBy ends cs) :
    line ≠ [] := by
  induction cs with
  | nil => cases h
  | cons c rest ih =>
      by_cases hc : endsLine ends c rest
      · rw [linesEndedBy_cons_of_endsLine hc] at h
        rcases List.mem_cons.1 h with rfl | h
        · exact List.cons_ne_nil _ _
        · exact ih h
      · rw [linesEndedBy_cons_of_not_endsLine hc] at h
        rcases List.mem_cons.1 h with rfl | h
        · exact List.cons_ne_nil _ _
        · exact ih (List.mem_of_mem_tail h)

/-- A line feed ends a line, whatever stands around it. -/
theorem linesEndedBy_append_lineFeed (hFeed : '\n' ∈ ends) (front back : List Char) :
    linesEndedBy ends (front ++ '\n' :: back) =
      linesEndedBy ends (front ++ ['\n']) ++ linesEndedBy ends back := by
  have hEnds (next : List Char) : endsLine ends '\n' next := by simp [endsLine, hFeed]
  induction front with
  | nil => exact linesEndedBy_cons_of_endsLine (hEnds back)
  | cons c front ih =>
      have hNext : endsLine ends c (front ++ '\n' :: back) = endsLine ends c (front ++ ['\n']) := by
        cases front <;> rfl
      rw [List.cons_append, List.cons_append]
      by_cases hc : endsLine ends c (front ++ ['\n'])
      · rw [linesEndedBy_cons_of_endsLine hc, linesEndedBy_cons_of_endsLine (hNext.trans hc), ih,
          List.cons_append]
      · have hc' : ¬ endsLine ends c (front ++ '\n' :: back) := by rwa [hNext]
        have hSome : linesEndedBy ends (front ++ ['\n']) ≠ [] := linesEndedBy_ne_nil (by simp)
        obtain ⟨line, others, hFront⟩ := List.exists_cons_of_ne_nil hSome
        rw [linesEndedBy_cons_of_not_endsLine hc, linesEndedBy_cons_of_not_endsLine hc', ih, hFront]
        rfl

/-- A text with nothing in it that ends a line, on a line of its own. -/
theorem linesEndedBy_of_disjoint {cs : List Char} (hFree : cs.Disjoint ends) :
    linesEndedBy ends (cs ++ ['\n']) = [cs ++ ['\n']] := by
  induction cs with
  | nil => rfl
  | cons c cs ih =>
      obtain ⟨hc, hRest⟩ := List.disjoint_cons_left.1 hFree
      have hKept : ¬ endsLine ends c (cs ++ ['\n']) := by simp [endsLine, hc]
      rw [List.cons_append, linesEndedBy_cons_of_not_endsLine hKept, ih hRest]
      rfl

/-! ## Comments -/

/-- The text without the lines that begin with a number sign. -/
def withoutComments (ends cs : List Char) : List Char :=
  ((linesEndedBy ends cs).filter fun line => line.head? ≠ some '#').flatten

theorem withoutComments_append_lineFeed (hFeed : '\n' ∈ ends) (front back : List Char) :
    withoutComments ends (front ++ '\n' :: back) =
      withoutComments ends (front ++ ['\n']) ++ withoutComments ends back := by
  rw [withoutComments, linesEndedBy_append_lineFeed hFeed, List.filter_append, List.flatten_append]
  rfl

/-- What is left of texts that are put on lines of their own is what is left of each of them. -/
theorem withoutComments_intercalate (hFeed : '\n' ∈ ends) {texts : List (List Char)}
    (h : texts ≠ []) (back : List Char) :
    withoutComments ends (['\n'].intercalate texts ++ '\n' :: back) =
      texts.flatMap (fun text => withoutComments ends (text ++ ['\n'])) ++
        withoutComments ends back := by
  induction texts with
  | nil => exact absurd rfl h
  | cons text texts ih =>
      by_cases hLast : texts = []
      · subst hLast
        rw [List.flatMap_singleton, List.intercalate_singleton]
        exact withoutComments_append_lineFeed hFeed text back
      · rw [List.intercalate_cons_of_ne_nil hLast, List.append_assoc, List.append_assoc,
          List.singleton_append, withoutComments_append_lineFeed hFeed, ih hLast, List.flatMap_cons,
          List.append_assoc]

/-- Nothing is left exactly if all lines are comments. -/
theorem withoutComments_eq_nil_iff {cs : List Char} :
    withoutComments ends cs = [] ↔ ∀ line ∈ linesEndedBy ends cs, line.head? = some '#' := by
  rw [withoutComments, List.flatten_eq_nil_iff]
  constructor
  · intro hEmpty line hLine
    by_contra hOther
    refine ne_nil_of_mem_linesEndedBy hLine (hEmpty line (List.mem_filter.2 ⟨hLine, ?_⟩))
    exact decide_eq_true hOther
  · intro hComments line hLine
    obtain ⟨hLine, hOther⟩ := List.mem_filter.1 hLine
    exact absurd (hComments line hLine) (of_decide_eq_true hOther)

/-! ## Texts that do not end a line -/

theorem disjoint_intercalate {separator : List Char} {parts : List (List Char)}
    (hSeparator : separator.Disjoint ends) (hParts : ∀ part ∈ parts, part.Disjoint ends) :
    (separator.intercalate parts).Disjoint ends := by
  induction parts with
  | nil => exact List.disjoint_nil_left _
  | cons part parts ih =>
      obtain ⟨hPart, hRest⟩ := List.forall_mem_cons.1 hParts
      by_cases hLast : parts = []
      · subst hLast
        rwa [List.intercalate_singleton]
      · rw [List.intercalate_cons_of_ne_nil hLast, List.disjoint_append_left,
          List.disjoint_append_left]
        exact ⟨⟨hPart, hSeparator⟩, ih hRest⟩

theorem exists_digitChar_of_mem_toDigits {c : Char} {n : Nat} (h : c ∈ Nat.toDigits 16 n) :
    ∃ d < 16, c = Nat.digitChar d := by
  induction n using Nat.strongRecOn with
  | ind n ih =>
      rw [Nat.toDigits_eq_if (by decide)] at h
      split at h
      · next hSmall => exact ⟨n, hSmall, List.mem_singleton.1 h⟩
      · next hLarge =>
        rcases List.mem_append.1 h with hFront | hLast
        · exact ih (n / 16) (Nat.div_lt_self (by omega) (by decide)) hFront
        · exact ⟨n % 16, Nat.mod_lt n (by decide), List.mem_singleton.1 hLast⟩

theorem disjoint_hexDigits (width code : Nat) : (hexDigits width code).Disjoint lineEnds := by
  have hDigits : ∀ d < 16, Nat.digitChar d ∉ lineEnds := by decide
  intro c hc
  rcases List.mem_append.1 hc with hZero | hDigit
  · rw [List.eq_of_mem_replicate hZero]
    decide
  · obtain ⟨d, hd, rfl⟩ := exists_digitChar_of_mem_toDigits hDigit
    exact hDigits d hd

theorem disjoint_escapeCode (c : Char) : (escapeCode c).Disjoint lineEnds := by
  unfold escapeCode
  dsimp only
  split_ifs
  all_goals
    rw [List.disjoint_cons_left, List.disjoint_cons_left]
    exact ⟨by decide, by decide, disjoint_hexDigits _ _⟩

theorem disjoint_quoteChar {mark : Char} (hMark : mark ∉ lineEnds) (c : Char) :
    (quoteChar mark c).Disjoint lineEnds := by
  have hHidden : lineEnds.all fun c => !isPrintable c := by decide +kernel
  have hBackslash : '\\' ∉ lineEnds := by decide
  unfold quoteChar
  split_ifs with hEscaped hFeed hReturn hTab hShown
  · have hc : c ∉ lineEnds := by
      rcases hEscaped with rfl | rfl
      · exact hMark
      · exact hBackslash
    simp [hBackslash, hc]
  · simp [lineEnds]
  · simp [lineEnds]
  · simp [lineEnds]
  · have hc : c ∉ lineEnds := by
      intro hEnd
      have hNot := List.all_eq_true.1 hHidden c hEnd
      simp [hShown] at hNot
    simp [hc]
  · exact disjoint_escapeCode c

theorem disjoint_quote (s : String) : (quote s).toList.Disjoint lineEnds := by
  have hMark : quotationMark s.toList ∉ lineEnds := by
    unfold quotationMark
    split <;> decide
  rw [quote, String.toList_ofList, quoteChars, List.disjoint_cons_left, List.disjoint_append_left,
    List.disjoint_cons_left]
  refine ⟨hMark, fun c hc => ?_, hMark, List.disjoint_nil_left _⟩
  obtain ⟨source, -, hc⟩ := List.mem_flatMap.1 hc
  exact disjoint_quoteChar hMark source hc

end TableFlow.Text
