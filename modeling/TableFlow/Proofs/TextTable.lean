import Mathlib.Algebra.GroupWithZero.Nat
import Mathlib.Data.List.DropRight
import TableFlow.Proofs.Reduction.Extremes
import TableFlow.Proofs.Text.Split
import TableFlow.TextTable

/-!
# Reading a text table

A text table can be read back by the widths of its columns: each column starts at the same place of
every line, and what stands there is the text of a cell, spaces at its end left out. The texts
themselves may hold dividers and spaces, since nothing but the places is looked at. Lines end with
their last character that is no space, so that columns at the end of a line can be cut short or
missing; what is cut off is always spaces.

## Main results

* `areWidths_widths`: the width of a column is the greatest length of its texts.
* `shows_line`: a line shows its texts in their columns.
* `lines_show_rows`: a table shows the names of its columns and the cells of its rows.
-/

namespace TableFlow.TextTable

/-! ## Slices of lines -/

/-- The characters before the spaces at the end. -/
def trimEnd (cs : List Char) : List Char := cs.rdropWhile (· == ' ')

/-- The characters from a place on, as many as the width says unless the text ends before. -/
def slice (start width : Nat) (cs : List Char) : List Char := (cs.drop start).take width

theorem trimEnd_append_spaces (cs : List Char) (n : Nat) :
    trimEnd (cs ++ List.replicate n ' ') = trimEnd cs := by
  induction n with
  | zero => rw [List.replicate_zero, List.append_nil]
  | succ n ih =>
      rw [List.replicate_succ', ← List.append_assoc, trimEnd,
        List.rdropWhile_concat_pos _ _ _ (by decide)]
      exact ih

theorem exists_eq_trimEnd_append (cs : List Char) :
    ∃ n, cs = trimEnd cs ++ List.replicate n ' ' := by
  refine ⟨(cs.rtakeWhile (· == ' ')).length, ?_⟩
  have hSpaces : cs.rtakeWhile (· == ' ') =
      List.replicate (cs.rtakeWhile (· == ' ')).length ' ' := by
    refine List.eq_replicate_iff.2 ⟨rfl, fun c hc => ?_⟩
    simpa using List.mem_rtakeWhile_imp hc
  rw [← hSpaces, trimEnd, List.rdropWhile_append_rtakeWhile]

/-- Spaces that are left out at the end of a line are left out at the end of a slice. -/
theorem trimEnd_slice_trimEnd (start width : Nat) (cs : List Char) :
    trimEnd (slice start width (trimEnd cs)) = trimEnd (slice start width cs) := by
  obtain ⟨n, hn⟩ := exists_eq_trimEnd_append cs
  conv_rhs => rw [hn]
  rw [slice, slice, List.drop_append, List.take_append, List.drop_replicate, List.take_replicate,
    trimEnd_append_spaces]

/-- A slice of the beginning of a text is the beginning of a slice. -/
theorem slice_take (start width length : Nat) (cs : List Char) :
    slice start width (cs.take length) = (slice start width cs).take (length - start) := by
  rw [slice, slice, List.drop_take, List.take_take, List.take_take, Nat.min_comm]

/-! ## Lines -/

/-- Where a column starts. -/
def offset (ws : List Nat) (j : Nat) : Nat := ((ws.take j).map (· + divider.length)).sum

/-- A line shows texts in columns of the given widths: each text stands in its column, up to spaces
at its end, and dividers stand between the columns as far as the line goes. -/
structure Shows (ws : List Nat) (texts : List String) (line : String) : Prop where
  column : ∀ (j : Nat) width text, ws[j]? = some width → texts[j]? = some text →
    trimEnd (slice (offset ws j) width line.toList) = trimEnd text.toList
  between : ∀ (j : Nat) width, j + 1 < ws.length → ws[j]? = some width →
    slice (offset ws j + width) divider.length line.toList =
      divider.take (line.length - (offset ws j + width))

theorem length_padded (fill : Char) {width : Nat} {text : String} (h : text.length ≤ width) :
    (padded fill width text).length = width := by
  rw [padded, List.length_append, List.length_replicate, String.length_toList]
  omega

section

variable {ws : List Nat} {texts : List String}
  (hFits : List.Forall₂ (fun (width : Nat) (text : String) => text.length ≤ width) ws texts)

include hFits

theorem map_length_padded (fill : Char) :
    (List.zipWith (padded fill) ws texts).map List.length = ws := by
  induction hFits with
  | nil => rfl
  | cons hFirst _ ih => rw [List.zipWith_cons_cons, List.map_cons, length_padded fill hFirst, ih]

/-- Before spaces at its end are left out, a line has each text in its column, filled up to the
width, and a divider behind each column but the last one. -/
theorem slices_of_join {j width : Nat} {text : String} (hWidth : ws[j]? = some width)
    (hText : texts[j]? = some text) :
    slice (offset ws j) width (Text.join divider (List.zipWith (padded ' ') ws texts)) =
        padded ' ' width text ∧
      (j + 1 < ws.length →
        slice (offset ws j + width) divider.length
          (Text.join divider (List.zipWith (padded ' ') ws texts)) = divider) := by
  have hLengths := map_length_padded hFits ' '
  have hPiece : (List.zipWith (padded ' ') ws texts)[j]? = some (padded ' ' width text) := by
    simp [List.getElem?_zipWith, hWidth, hText]
  have hLength : (padded ' ' width text).length = width := by
    obtain ⟨text', hText', hShort⟩ := exists_getElem?_of_forall₂ hFits hWidth
    cases hText.symm.trans hText'
    exact length_padded ' ' hShort
  obtain ⟨front, back, hJoin, hFront, hBack⟩ := Text.exists_join_eq divider hPiece
  have hOffset : front.length = offset ws j := by
    rw [hFront, offset]
    conv_rhs => rw [← hLengths, ← List.map_take, List.map_map]
    rfl
  rw [hJoin, ← hOffset]
  constructor
  · rw [slice, List.append_assoc, List.drop_left, List.take_left' hLength]
  · intro hInside
    have hSame : (List.zipWith (padded ' ') ws texts).length = ws.length := by
      simpa using congrArg List.length hLengths
    obtain ⟨rest, rfl⟩ := hBack (hSame ▸ hInside)
    have hEnd : (front ++ padded ' ' width text).length = front.length + width := by
      rw [List.length_append, hLength]
    rw [slice, List.drop_left' hEnd, List.take_left]

/-- A line whose texts fit in its columns shows them. -/
theorem shows_line : Shows ws texts (line ' ' ws texts) := by
  have hLine : (line ' ' ws texts).toList =
      trimEnd (Text.join divider (List.zipWith (padded ' ') ws texts)) := by
    rw [line, String.toList_ofList]
    rfl
  constructor
  · intro j width text hWidth hText
    rw [hLine, trimEnd_slice_trimEnd, (slices_of_join hFits hWidth hText).1, padded,
      trimEnd_append_spaces]
  · intro j width hInside hWidth
    obtain ⟨text, hText, -⟩ := exists_getElem?_of_forall₂ hFits hWidth
    have hDivider := (slices_of_join hFits hWidth hText).2 hInside
    have hBeginning : (line ' ' ws texts).toList =
        (Text.join divider (List.zipWith (padded ' ') ws texts)).take
          (line ' ' ws texts).length := by
      rw [← String.length_toList, hLine]
      exact List.prefix_iff_eq_take.1 (List.rdropWhile_prefix _ _)
    rw [hBeginning, slice_take, hDivider]

end

/-! ## Widths -/

/-- The width of each column is the greatest length of its texts, its name among them. -/
structure AreWidths (columns : List String) (body : List (List String)) (ws : List Nat) :
    Prop where
  length : ws.length = columns.length
  greatest : ∀ (j : Nat) name width, columns[j]? = some name → ws[j]? = some width →
    IsGreatest {n | n = name.length ∨
      ∃ texts ∈ body, ∃ text, texts[j]? = some text ∧ n = text.length} width

/-- Widths that grow with each row end up at the maximum of the first width and all texts. -/
theorem getElem?_foldl_max {body : List (List String)} {ws : List Nat} {j width : Nat}
    (hWidth : ws[j]? = some width) (hBody : ∀ texts ∈ body, ∃ text, texts[j]? = some text) :
    (body.foldl (fun ws texts => List.zipWith (fun w (text : String) => max w text.length) ws texts)
        ws)[j]? =
      some ((body.map fun texts => (texts[j]?.getD "").length).foldl max width) := by
  induction body generalizing ws width with
  | nil => exact hWidth
  | cons texts body ih =>
      obtain ⟨⟨text, hText⟩, hRest⟩ := List.forall_mem_cons.1 hBody
      rw [List.foldl_cons, List.map_cons, List.foldl_cons, hText, Option.getD_some]
      exact ih (by simp [List.getElem?_zipWith, hWidth, hText]) hRest

theorem length_foldl_max {body : List (List String)} {ws : List Nat}
    (hBody : ∀ texts ∈ body, texts.length = ws.length) :
    (body.foldl (fun ws texts => List.zipWith (fun w (text : String) => max w text.length) ws texts)
        ws).length = ws.length := by
  induction body generalizing ws with
  | nil => rfl
  | cons texts body ih =>
      obtain ⟨hFirst, hRest⟩ := List.forall_mem_cons.1 hBody
      have hKept : (List.zipWith (fun w (text : String) => max w text.length) ws texts).length =
          ws.length := by
        rw [List.length_zipWith, hFirst, Nat.min_self]
      rw [List.foldl_cons, ih fun texts hTexts => (hRest texts hTexts).trans hKept.symm, hKept]

theorem areWidths_widths {columns : List String} {body : List (List String)}
    (hBody : ∀ texts ∈ body, texts.length = columns.length) :
    AreWidths columns body (widths columns body) where
  length := by
    rw [widths, length_foldl_max (by simpa using hBody), List.length_map]
  greatest j name width hName hWidth := by
    have hInside : j < columns.length := (List.getElem?_eq_some_iff.1 hName).1
    have hTexts : ∀ texts ∈ body, ∃ text, texts[j]? = some text := fun texts hTexts =>
      ⟨_, List.getElem?_eq_getElem ((hBody texts hTexts).symm ▸ hInside)⟩
    have hStart : (columns.map String.length)[j]? = some name.length := by simp [hName]
    rw [widths, getElem?_foldl_max hStart hTexts, Option.some.injEq] at hWidth
    have hGreatest := isLeast_foldl_min_cons (α := Natᵒᵈ) name.length
      (body.map fun texts => (texts[j]?.getD "").length)
    have hSame : {n | n = name.length ∨
        ∃ texts ∈ body, ∃ text, texts[j]? = some text ∧ n = text.length} =
        {n | n ∈ name.length :: body.map fun texts => (texts[j]?.getD "").length} := by
      ext n
      simp only [Set.mem_ofPred_eq, List.mem_cons, List.mem_map]
      refine or_congr_right (exists_congr fun texts => and_congr_right fun hMember => ?_)
      obtain ⟨text, hText⟩ := hTexts texts hMember
      simp [hText, eq_comm]
    rw [hSame, ← hWidth]
    exact hGreatest

theorem AreWidths.fits_name {columns : List String} {body : List (List String)} {ws : List Nat}
    (h : AreWidths columns body ws) :
    List.Forall₂ (fun (width : Nat) (text : String) => text.length ≤ width) ws columns := by
  refine List.forall₂_iff_get.2 ⟨h.length, fun j hj hj' => ?_⟩
  exact (h.greatest j _ _ (List.getElem?_eq_getElem hj') (List.getElem?_eq_getElem hj)).2 (.inl rfl)

theorem AreWidths.fits {columns : List String} {body : List (List String)} {ws : List Nat}
    (h : AreWidths columns body ws) {texts : List String} (hTexts : texts ∈ body)
    (hLength : texts.length = columns.length) :
    List.Forall₂ (fun (width : Nat) (text : String) => text.length ≤ width) ws texts := by
  refine List.forall₂_iff_get.2 ⟨h.length.trans hLength.symm, fun j hj hj' => ?_⟩
  have hName : j < columns.length := hLength ▸ hj'
  refine (h.greatest j _ _ (List.getElem?_eq_getElem hName) (List.getElem?_eq_getElem hj)).2 ?_
  exact .inr ⟨texts, hTexts, _, List.getElem?_eq_getElem hj', rfl⟩

/-! ## Tables -/

theorem hasValue_cellText {cell : Cell} (h : HasValue cell.toText) : HasValue (cellText cell) := by
  cases cell with
  | float x => exact .ok trivial
  | _ => exact h.bind fun _ _ => .ok trivial

/-- The cells of a row, as texts. -/
def TextsOf (columns : List String) (row : Row) (texts : List String) : Prop :=
  List.Forall₂ (fun column text => cellText (row.get column) = .ok text) columns texts

/-- **A text table can be read back by the widths of its columns**, if the cells that are shown have
texts. The width of a column is the greatest length of its name and its texts. The table has a line
for the names, a line of dashes, one line for each row that is shown, in order, and possibly a line
about the other rows. The first line shows the names in their columns, and the line of a row shows
the texts of its cells. -/
theorem lines_show_rows {rows : List Row} {columns : List String} {maxRows : Nat}
    (hTexts : ∀ row ∈ rows.take maxRows, ∀ column ∈ columns, HasValue (row.get column).toText) :
    ∃ body ws header data, List.Forall₂ (TextsOf columns) (rows.take maxRows) body ∧
      AreWidths columns body ws ∧ Shows ws columns header ∧
      List.Forall₂ (Shows ws) body data ∧
      lines rows columns maxRows =
        .ok (header :: line '-' ws (columns.map fun _ => "-") ::
          (data ++ remainder maxRows rows)) ∧
      table rows columns maxRows =
        .ok ("\n".intercalate (header :: line '-' ws (columns.map fun _ => "-") ::
          (data ++ remainder maxRows rows))) := by
  obtain ⟨body, hBody, -⟩ := hasValue_mapM fun row hRow =>
    hasValue_mapM fun column hColumn => hasValue_cellText (hTexts row hRow column hColumn)
  have hRows : List.Forall₂ (TextsOf columns) (rows.take maxRows) body :=
    (forall₂_of_mapM hBody).imp fun row texts hRow => forall₂_of_mapM hRow
  have hLengths : ∀ texts ∈ body, texts.length = columns.length := by
    intro texts hMember
    obtain ⟨row, -, hRow⟩ := exists_of_mem_of_forall₂ hRows texts hMember
    exact hRow.length_eq.symm
  have hWidths := areWidths_widths hLengths
  have hShown : shownRows maxRows rows = rows.take maxRows := by
    rw [shownRows, if_pos (Int.natCast_nonneg maxRows), Int.toNat_natCast]
  have hLines : lines rows columns maxRows =
      .ok (line ' ' (widths columns body) columns ::
        line '-' (widths columns body) (columns.map fun _ => "-") ::
          (body.map (line ' ' (widths columns body)) ++ remainder maxRows rows)) := by
    rw [lines, hShown, hBody]
    rfl
  refine ⟨body, _, _, _, hRows, hWidths, shows_line hWidths.fits_name, ?_, hLines, ?_⟩
  · refine List.forall₂_map_right_iff.2 (List.forall₂_same.2 fun texts hMember => ?_)
    exact shows_line (hWidths.fits hMember (hLengths texts hMember))
  · rw [table, hLines]
    rfl

/-- A text with a divider, one of spaces alone, a missing cell at the end of a line, and a row that
is not shown. -/
def dividersInCells : List Row :=
  [Row.ofEntries [("a", .text "x | y"), ("b", .text "  ")],
    Row.ofEntries [("a", .float (.ofRatio false 5 2))], Row.ofEntries [("b", .int 7)]]

theorem lines_show_rows_dividersInCells :
    (∀ row ∈ dividersInCells.take 2, ∀ column ∈ ["a", "b"], HasValue (row.get column).toText) ∧
      ∃ body ws, List.Forall₂ (TextsOf ["a", "b"]) (dividersInCells.take 2) body ∧
        AreWidths ["a", "b"] body ws ∧ Shows ws ["a", "b"] "a     | b" ∧
        List.Forall₂ (Shows ws) body ["x | y |", "2.50  |"] := by
  have hTexts : ∀ row ∈ dividersInCells.take 2, ∀ column ∈ ["a", "b"],
      HasValue (row.get column).toText := by
    decide +kernel
  obtain ⟨body, ws, header, data, hBody, hWidths, hHeader, hData, hLines, -⟩ :=
    lines_show_rows hTexts
  have hMade : lines dividersInCells ["a", "b"] 2 =
      .ok ["a     | b", "----- | --", "x | y |", "2.50  |", "... and 1 more rows"] := by
    decide +kernel
  have hMore : remainder (2 : Nat) dividersInCells = ["... and 1 more rows"] := by decide +kernel
  have hSame := Except.ok.inj (hMade.symm.trans hLines)
  rw [List.cons.injEq, List.cons.injEq, hMore] at hSame
  obtain ⟨hFirst, -, hRest⟩ := hSame
  have hRest : ["x | y |", "2.50  |"] ++ ["... and 1 more rows"] = data ++ _ := hRest
  rw [← hFirst] at hHeader
  rw [← List.append_cancel_right hRest] at hData
  exact ⟨hTexts, body, ws, hBody, hWidths, hHeader, hData⟩

end TableFlow.TextTable
