import TableFlow.Proofs.Binary64.Rounding
import TableFlow.Proofs.Cell.Text
import TableFlow.Proofs.Success
import TableFlow.Row

/-!
# Plain cells

A plain cell is a value that a table of a file has: no list or record, no whole number beyond the
binary64 numbers, and no text with the NUL character. Each view that the stages take of a cell, its
text and its number, exists for a plain cell, and its text can be compared.

## Main results

* `Cell.IsPlain.succeeds_toText` and `Cell.IsPlain.hasValue_toNumber`: the two views exist.
* `Row.forall_get_ofEntries`: what holds of the cells of a list of entries holds of their row.
-/

namespace TableFlow

/-! ## Numerals that can be written -/

theorem Decimal.length_digits_le {n places : Nat} (hPlaces : 0 < places) (h : n < 10 ^ places) :
    (digits n).length ≤ places := by
  induction places generalizing n with
  | zero => omega
  | succ places ih =>
      by_cases hSmall : n < 10
      · rw [digits_of_lt_ten hSmall]
        exact hPlaces
      · have hMore : 0 < places := by
          rcases Nat.eq_zero_or_pos places with rfl | hPos
          · simp at h
            omega
          · exact hPos
        have hTenth : n / 10 < 10 ^ places := by
          rw [Nat.pow_succ] at h
          omega
        rw [digits_of_ten_le (by omega), List.length_append, List.length_singleton]
        exact Nat.succ_le_succ (ih hMore hTenth)

theorem Decimal.lt_ten_pow_of_lt_two_pow {n bits : Nat} (h : n < 2 ^ bits) : n < 10 ^ bits :=
  Nat.lt_of_lt_of_le h (Nat.pow_le_pow_left (by decide) bits)

theorem eq_of_intNumeral {n : Int} {text : String} (h : intNumeral n = .ok text) :
    text = String.ofList (Decimal.signedNumeral n) := by
  unfold intNumeral at h
  dsimp only at h
  split at h
  · exact (Except.ok.inj h).symm
  · cases h

/-- A whole number that the binary64 numbers reach can be written. -/
theorem succeeds_intNumeral {n : Int} (h : (Binary64.ofInt? n).isSome) :
    Succeeds (intNumeral n) fun text => text.toList ⊆ cellChars := by
  have hSmall := Decimal.lt_ten_pow_of_lt_two_pow (Binary64.natAbs_lt_of_ofInt?_isSome h)
  have hLength : (Decimal.digits n.natAbs).length ≤ Decimal.digitLimit :=
    Nat.le_trans (Decimal.length_digits_le (by decide) hSmall) (by decide)
  unfold intNumeral
  rw [if_pos hLength]
  refine .ok ?_
  rw [String.toList_ofList]
  exact subset_cellChars (Decimal.signedNumeral_subset n)

/-! ## Cells -/

namespace Cell

/-- A cell that stages can work with. -/
def IsPlain : Cell → Prop
  | .int n => (Binary64.ofInt? n).isSome
  | .text s => NulFree s.toList
  | .list _ | .record _ => False
  | .missing | .bool _ | .float _ | .date _ | .dateTime _ | .time _ => True

instance : DecidablePred IsPlain
  | .int n => inferInstanceAs (Decidable ((Binary64.ofInt? n).isSome = true))
  | .text s => inferInstanceAs (Decidable (NulFree s.toList))
  | .list _ | .record _ => inferInstanceAs (Decidable False)
  | .missing | .bool _ | .float _ | .date _ | .dateTime _ | .time _ =>
      inferInstanceAs (Decidable True)

theorem isPlain_missing : IsPlain .missing := trivial

/-- The text of a plain cell that is no text itself. -/
theorem IsPlain.toText_subset {cell : Cell} (h : cell.IsPlain) (hOther : ∀ s, cell ≠ .text s) :
    Succeeds cell.toText fun text => text.toList ⊆ cellChars := by
  cases cell with
  | missing => exact .ok (List.nil_subset _)
  | bool b => cases b <;> exact .ok (by decide)
  | int n => exact succeeds_intNumeral h
  | float x => exact .ok (subset_cellChars x.cellText_subset)
  | text s => exact absurd rfl (hOther s)
  | date d =>
      refine .ok ?_
      rw [Calendar.Date.isoText, String.toList_ofList]
      exact d.isoChars_subset
  | dateTime t =>
      refine .ok ?_
      rw [Calendar.DateTime.isoText, String.toList_ofList]
      exact t.isoChars_subset
  | time t =>
      refine .ok ?_
      rw [Calendar.TimeOfDay.isoText, String.toList_ofList]
      exact t.isoChars_subset
  | list cells => exact h.elim
  | record fields => exact h.elim

theorem IsPlain.succeeds_toText {cell : Cell} (h : cell.IsPlain) :
    Succeeds cell.toText fun text => NulFree text.toList := by
  by_cases hText : ∃ s, cell = .text s
  · obtain ⟨s, rfl⟩ := hText
    exact .ok h
  · exact (h.toText_subset fun s hs => hText ⟨s, hs⟩).mono fun _ => nulFree_of_subset

theorem toNumber_int (n : Int) :
    (Cell.int n).toNumber = (Binary64.ofInt? n).elim (.error .integerTooLarge) .ok := rfl

/-- All but the whole numbers beyond the format give a number, or NaN. -/
theorem hasValue_toNumber_of_fits {cell : Cell}
    (h : ∀ n, cell = .int n → (Binary64.ofInt? n).isSome) : HasValue cell.toNumber := by
  cases cell with
  | int n =>
      obtain ⟨x, hx⟩ := Option.isSome_iff_exists.1 (h n rfl)
      rw [toNumber_int, hx]
      exact .ok trivial
  | _ => exact .ok trivial

theorem IsPlain.hasValue_toNumber {cell : Cell} (h : cell.IsPlain) : HasValue cell.toNumber := by
  refine hasValue_toNumber_of_fits fun n hWhole => ?_
  subst hWhole
  exact h

/-- A cell that has a text and a number. Texts that stages make need no more, since no stage behind
them compares texts. -/
def Converts (cell : Cell) : Prop :=
  HasValue cell.toText ∧ HasValue cell.toNumber

theorem IsPlain.converts {cell : Cell} (h : cell.IsPlain) : cell.Converts :=
  ⟨h.succeeds_toText.hasValue, h.hasValue_toNumber⟩

theorem converts_missing : Converts .missing := isPlain_missing.converts

theorem converts_float (x : Binary64) : Converts (.float x) := ⟨.ok trivial, .ok trivial⟩

theorem converts_text (s : String) : Converts (.text s) := ⟨.ok trivial, .ok trivial⟩

end Cell

/-! ## Rows -/

namespace Row

/-- A row of plain cells. -/
def IsPlain (row : Row) : Prop := ∀ column, (row.get column).IsPlain

/-- A row whose cells have texts and numbers. -/
def Converts (row : Row) : Prop := ∀ column, (row.get column).Converts

theorem IsPlain.converts {row : Row} (h : row.IsPlain) : row.Converts :=
  fun column => (h column).converts

theorem forall_get_set {good : Cell → Prop} {row : Row} {name : String} {cell : Cell}
    (hRow : ∀ column, good (row.get column)) (hCell : good cell) :
    ∀ column, good ((row.set name cell).get column) := by
  intro column
  unfold get
  by_cases hName : column = name
  · rw [hName, get?_set_self]
    exact hCell
  · rw [get?_set_of_ne row cell hName]
    exact hRow column

theorem isPlain_empty : empty.IsPlain := fun _ => Cell.isPlain_missing

theorem IsPlain.set {row : Row} (h : row.IsPlain) (name : String) {cell : Cell}
    (hCell : cell.IsPlain) : (row.set name cell).IsPlain :=
  forall_get_set h hCell

/-- What holds of missing cells and of the cells of some entries holds of the row that the entries
make. -/
theorem forall_get_ofEntries {good : Cell → Prop} {entries : List (String × Cell)}
    (hMissing : good .missing) (hEntries : ∀ entry ∈ entries, good entry.2) :
    ∀ column, good ((ofEntries entries).get column) := by
  unfold ofEntries
  refine List.foldlRecOn (motive := fun row : Row => ∀ column, good (row.get column)) entries _
    (fun _ => hMissing) ?_
  intro row hRow entry hEntry
  exact forall_get_set hRow (hEntries entry hEntry)

end Row

end TableFlow
