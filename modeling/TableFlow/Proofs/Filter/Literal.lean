import TableFlow.Filter
import TableFlow.Proofs.Text.Sigma

/-!
# Filters and texts that match as they are

A filter compares texts in lower case, and it puts each text into lower case by itself. A text that
holds the value of a filter character for character holds it in lower case too, unless the form of a
capital sigma at the end of a word comes between: `ΑΣ` becomes `ας`, while the value `Σ` becomes
`σ`. So a filter rejects texts that match as they are, but only if the value has such a sigma at the
side where the text goes on. Equal texts are never rejected.

## Main results

* `Filter.keeps_literal`: which texts that hold the value of a filter it keeps.
* `Filter.exists_rejected_match`: texts that match as they are and are rejected.
-/

namespace TableFlow

open Text (lower EndsWithFinalSigma StartsWithLoneSigma startsCased)

/-- One text occurs in another if and only if it is a piece of it. -/
theorem Text.contains_iff (piece cs : List Char) : Text.contains piece cs ↔ piece <:+: cs := by
  induction cs with
  | nil => simp [contains]
  | cons c cs ih =>
      rw [contains, Bool.or_eq_true, ih, List.infix_cons_iff, List.isPrefixOf_iff_prefix]

namespace Filter

section

variable {row : Row} {column text : String} (h : (row.get column).toText = .ok text)
  (value : String) (value2 : Option String)

include h

theorem keeps_of_relatesText {operator : Operator} {name : String}
    (relation : List Char → List Char → Bool) (hName : Operator.ofName? name = some operator)
    (hRelation : ∀ cell, keepsCell operator value value2 cell = relatesText relation value cell) :
    (Filter.mk column name value value2).keeps row =
      .ok (relation (lower value.toList) (lower text.toList)) := by
  unfold keeps
  simp only [hName]
  rw [hRelation, relatesText, h]
  rfl

theorem keeps_equals_iff : (Filter.mk column "equals" value value2).keeps row = .ok true ↔
    lower text.toList = lower value.toList := by
  rw [keeps_of_relatesText h value value2 (fun v t => t == v) rfl fun _ => rfl, Except.ok.injEq,
    beq_iff_eq]

theorem keeps_startsWith_iff : (Filter.mk column "startsWith" value value2).keeps row = .ok true ↔
    lower value.toList <+: lower text.toList := by
  rw [keeps_of_relatesText h value value2 (fun v t => v.isPrefixOf t) rfl fun _ => rfl,
    Except.ok.injEq, List.isPrefixOf_iff_prefix]

theorem keeps_endsWith_iff : (Filter.mk column "endsWith" value value2).keeps row = .ok true ↔
    lower value.toList <:+ lower text.toList := by
  rw [keeps_of_relatesText h value value2 (fun v t => v.isSuffixOf t) rfl fun _ => rfl,
    Except.ok.injEq, List.isSuffixOf_iff_suffix]

theorem keeps_contains_iff : (Filter.mk column "contains" value value2).keeps row = .ok true ↔
    lower value.toList <:+: lower text.toList := by
  rw [keeps_of_relatesText h value value2 (fun v t => Text.contains v t) rfl fun _ => rfl,
    Except.ok.injEq, Text.contains_iff]

end

/-- A row with one text. -/
def rowOfText (column text : String) : Row := Row.empty.set column (.text text)

theorem toText_get_rowOfText (column text : String) :
    ((rowOfText column text).get column).toText = .ok text := by
  rw [rowOfText, Row.get, Row.get?_set_self]
  rfl

/-- **Filters keep literal matches, final sigmas apart.** A filter for equal texts keeps every row
whose text is the value. A text that begins with the value is kept by a filter for that, unless the
value ends with a final sigma and a letter goes on; and the same for texts that end with the value,
unless it starts with a lone sigma and a letter is before it. A filter for pieces keeps all texts
that hold the value if and only if the value has no such sigma at either side. -/
theorem keeps_literal (column value : String) (value2 : Option String) :
    (∀ row : Row, (row.get column).toText = .ok value →
      (Filter.mk column "equals" value value2).keeps row = .ok true) ∧
    (∀ (row : Row) (back : String), (row.get column).toText = .ok (value ++ back) →
      ((Filter.mk column "startsWith" value value2).keeps row = .ok true ↔
        ¬ (EndsWithFinalSigma value.toList ∧ startsCased back.toList))) ∧
    (∀ (row : Row) (front : String), (row.get column).toText = .ok (front ++ value) →
      ((Filter.mk column "endsWith" value value2).keeps row = .ok true ↔
        ¬ (StartsWithLoneSigma value.toList ∧ startsCased front.toList.reverse))) ∧
    ((∀ (row : Row) (front back : String), (row.get column).toText = .ok (front ++ value ++ back) →
        (Filter.mk column "contains" value value2).keeps row = .ok true) ↔
      ¬ EndsWithFinalSigma value.toList ∧ ¬ StartsWithLoneSigma value.toList) := by
  refine ⟨fun row h => ?_, fun row back h => ?_, fun row front h => ?_, ?_⟩
  · rw [keeps_equals_iff h]
  · rw [keeps_startsWith_iff h, String.toList_append, Text.lower_prefix_iff]
  · rw [keeps_endsWith_iff h, String.toList_append, Text.lower_suffix_iff]
  · rw [← Text.forall_lower_infix_iff]
    constructor
    · intro h front back
      have hText := toText_get_rowOfText column (String.ofList front ++ value ++ String.ofList back)
      have hInfix := (keeps_contains_iff hText value value2).1 (h _ _ _ hText)
      simpa using hInfix
    · intro h row front back hText
      rw [keeps_contains_iff hText, String.toList_append, String.toList_append]
      exact h front.toList back.toList

/-- A text that goes on with a space, which leaves the final sigma before it as it is, and a text
with a space before the sigma. -/
theorem keeps_literal_spaced :
    (Filter.mk "v" "startsWith" "ΑΣ" none).keeps (rowOfText "v" "ΑΣ ΣΑΣ") = .ok true ∧
      (Filter.mk "v" "endsWith" "ΣΑΣ" none).keeps (rowOfText "v" "ΑΣ ΣΑΣ") = .ok true := by
  obtain ⟨-, hStart, -, -⟩ := keeps_literal "v" "ΑΣ" none
  obtain ⟨-, -, hEnd, -⟩ := keeps_literal "v" "ΣΑΣ" none
  have hText := toText_get_rowOfText "v" "ΑΣ ΣΑΣ"
  have hAfter : startsCased " ΣΑΣ".toList = false := by decide +kernel
  have hBefore : startsCased "ΑΣ ".toList.reverse = false := by decide +kernel
  refine ⟨(hStart _ " ΣΑΣ" hText).2 ?_, (hEnd _ "ΑΣ " hText).2 ?_⟩
  · rw [hAfter]
    exact fun h => Bool.false_ne_true h.2
  · rw [hBefore]
    exact fun h => Bool.false_ne_true h.2

/-- Texts that hold, begin with and end with a value as it is, and are rejected. -/
theorem exists_rejected_match :
    ((rowOfText "v" "ΑΣ").get "v").toText = .ok "ΑΣ" ∧ "Σ".toList <:+ "ΑΣ".toList ∧
      (Filter.mk "v" "contains" "Σ" none).keeps (rowOfText "v" "ΑΣ") = .ok false ∧
      (Filter.mk "v" "endsWith" "Σ" none).keeps (rowOfText "v" "ΑΣ") = .ok false ∧
    ((rowOfText "v" "ΑΣΑ").get "v").toText = .ok "ΑΣΑ" ∧ "ΑΣ".toList <+: "ΑΣΑ".toList ∧
      (Filter.mk "v" "startsWith" "ΑΣ" none).keeps (rowOfText "v" "ΑΣΑ") = .ok false := by
  decide +kernel

end Filter

end TableFlow
