import TableFlow.Proofs.Cell.Plain
import TableFlow.Proofs.Decimal.Numeral

/-!
# Only empty cells have empty texts

Stages group rows by the texts of cells, while a profile asks the cells themselves whether they are
empty. Both tell the same cells apart: every number, date, list and record is written with one
character at least.

## Main results

* `Cell.toText_eq_empty_iff`: a cell has the empty text if and only if it is empty.
* `Cell.text_of_isNumber`: the text of a number.
-/

namespace TableFlow

namespace Decimal

theorem signedNumeral_ne_nil (n : Int) : signedNumeral n ≠ [] := by
  unfold signedNumeral
  split
  · exact List.cons_ne_nil _ _
  · exact numeral_ne_nil _

theorem paddedNumeral_ne_nil (width n : Nat) : paddedNumeral width n ≠ [] :=
  List.append_ne_nil_of_right_ne_nil _ (numeral_ne_nil n)

theorem pointAfter_ne_nil {keepsPoint : Bool} {whole : Nat} (hWhole : 0 < whole) (ds : List Nat) :
    pointAfter keepsPoint whole ds ≠ [] := by
  have hFront : (ds.take whole ++ List.replicate (whole - ds.length) 0).map digitChar ≠ [] := by
    intro hNil
    have hLength := congrArg List.length hNil
    simp only [List.length_map, List.length_append, List.length_take, List.length_replicate,
      List.length_nil] at hLength
    omega
  unfold pointAfter
  dsimp only
  split
  · split
    · exact List.append_ne_nil_of_left_ne_nil hFront _
    · exact hFront
  · exact List.append_ne_nil_of_left_ne_nil hFront _

theorem Layout.write_ne_nil (layout : Layout) (s : Scientific) : layout.write s ≠ [] := by
  unfold Layout.write
  split
  · exact List.append_ne_nil_of_left_ne_nil (pointAfter_ne_nil Nat.one_pos _) _
  · split
    · exact List.cons_ne_nil _ _
    · exact pointAfter_ne_nil (Nat.succ_pos _) _

end Decimal

/-- A text of some characters is not empty. -/
theorem ofList_ne_empty {cs : List Char} (h : cs ≠ []) : String.ofList cs ≠ "" :=
  fun hEmpty => h (String.ofList_eq_empty_iff.1 hEmpty)

namespace Binary64

theorem text_ne_empty (layout : Decimal.Layout) (x : Binary64) : x.text layout ≠ "" := by
  have hMagnitude : ∀ units, magnitudeText layout Decimal.shortest units ≠ [] := by
    intro units
    unfold magnitudeText
    split <;> exact layout.write_ne_nil _
  unfold text textWith
  split
  · decide
  · decide
  · decide
  · refine ofList_ne_empty ?_
    split
    · exact List.cons_ne_nil _ _
    · exact hMagnitude _

theorem cellText_ne_empty (x : Binary64) : x.cellText ≠ "" := by
  unfold cellText
  split
  · decide
  · decide
  · decide
  · split
    · split
      · exact ofList_ne_empty (Decimal.signedNumeral_ne_nil _)
      · exact text_ne_empty _ _
    · exact text_ne_empty _ _

end Binary64

namespace Calendar

open Decimal (paddedNumeral_ne_nil)

theorem Date.isoChars_ne_nil (d : Date) : d.isoChars ≠ [] :=
  List.append_ne_nil_of_left_ne_nil (paddedNumeral_ne_nil _ _) _

theorem DateTime.isoChars_ne_nil (t : DateTime) : t.isoChars ≠ [] :=
  List.append_ne_nil_of_left_ne_nil t.date.isoChars_ne_nil _

theorem TimeOfDay.isoChars_ne_nil (t : TimeOfDay) : t.isoChars ≠ [] := by
  unfold TimeOfDay.isoChars Clock.isoChars hmsChars
  simp only [List.append_assoc]
  exact List.append_ne_nil_of_left_ne_nil (paddedNumeral_ne_nil _ _) _

end Calendar

namespace Cell

/-- The text of a number is not empty and made of few characters. -/
theorem text_of_isNumber {cell : Cell} {text : String} (hNumber : cell.isNumber)
    (h : cell.toText = .ok text) : text ≠ "" ∧ text.toList ⊆ numberChars := by
  cases cell with
  | int n =>
      rw [eq_of_intNumeral h, String.toList_ofList]
      exact ⟨ofList_ne_empty (Decimal.signedNumeral_ne_nil n), Decimal.signedNumeral_subset n⟩
  | float x =>
      cases h
      exact ⟨x.cellText_ne_empty, x.cellText_subset⟩
  | _ => cases hNumber

/-- The literals of lists and records stand between marks. -/
private theorem enclosed_ne_empty {mark content end' : String} (h : mark ≠ "") :
    mark ++ content ++ end' ≠ "" := by
  intro hEmpty
  simp only [String.append_eq_empty_iff] at hEmpty
  exact h hEmpty.1.1

/-- A cell has the empty text if and only if it is empty. -/
theorem toText_eq_empty_iff {cell : Cell} : cell.toText = .ok "" ↔ cell.isEmpty := by
  cases cell with
  | missing => exact iff_of_true rfl rfl
  | text s =>
      rw [toText_text, Except.ok.injEq]
      exact String.isEmpty_iff.symm
  | bool b => cases b <;> decide
  | int n =>
      refine iff_of_false (fun h => ?_) Bool.false_ne_true
      exact (@text_of_isNumber (.int n) _ rfl h).1 rfl
  | float x =>
      refine iff_of_false (fun h => ?_) Bool.false_ne_true
      exact (@text_of_isNumber (.float x) _ rfl h).1 rfl
  | date d =>
      refine iff_of_false (fun h => ?_) Bool.false_ne_true
      exact ofList_ne_empty d.isoChars_ne_nil (Except.ok.inj h)
  | dateTime t =>
      refine iff_of_false (fun h => ?_) Bool.false_ne_true
      exact ofList_ne_empty t.isoChars_ne_nil (Except.ok.inj h)
  | time t =>
      refine iff_of_false (fun h => ?_) Bool.false_ne_true
      exact ofList_ne_empty t.isoChars_ne_nil (Except.ok.inj h)
  | list cells =>
      refine iff_of_false (fun h => ?_) Bool.false_ne_true
      obtain ⟨parts, -, h⟩ := bind_eq_ok_iff.1 h
      exact enclosed_ne_empty (by decide) (Except.ok.inj h)
  | record fields =>
      refine iff_of_false (fun h => ?_) Bool.false_ne_true
      obtain ⟨parts, -, h⟩ := bind_eq_ok_iff.1 h
      exact enclosed_ne_empty (by decide) (Except.ok.inj h)

end Cell

end TableFlow
