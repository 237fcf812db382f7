import TableFlow.Cell.Coercion

/-!
# Texts of numbers and dates

The texts of numbers are made of digits, a few marks, and the letters of the numbers that are not
finite. The digits that are written come from `Decimal.digits`, so each of them is below ten. The
texts of dates and times are made of such numerals and a few marks more. None of all these texts
holds the NUL character, for which texts cannot be compared, or a surrogate, for which they cannot
be encoded.

## Main results

* `Binary64.cellText_subset`: the characters of the text of a binary64 number.
* `Calendar.DateTime.isoChars_subset`: the characters of the text of a date and time.
* `nulFree_of_subset` and `isEncodable_of_subset`: what such texts do not hold.
-/

namespace TableFlow

/-- A text that does not hold the NUL character. -/
def NulFree (cs : List Char) : Prop := '\x00' ∉ cs

instance (cs : List Char) : Decidable (NulFree cs) := inferInstanceAs (Decidable (¬ _))

/-! ## Numerals -/

/-- The characters that the texts of numbers are made of. -/
def numberChars : List Char :=
  ['0', '1', '2', '3', '4', '5', '6', '7', '8', '9', '+', '-', '.', 'e', 'N', 'a', 'I', 'n', 'f',
    'i', 't', 'y']

namespace Decimal

theorem map_digitChar_subset {ds : List Nat} (h : ∀ d ∈ ds, d < 10) :
    ds.map digitChar ⊆ numberChars := by
  have hDigits : ∀ d < 10, digitChar d ∈ numberChars := by decide
  intro c hc
  obtain ⟨d, hd, rfl⟩ := List.mem_map.1 hc
  exact hDigits d (h d hd)

theorem numeral_subset (n : Nat) : numeral n ⊆ numberChars :=
  map_digitChar_subset fun _ => lt_ten_of_mem_digits

theorem signedNumeral_subset (n : Int) : signedNumeral n ⊆ numberChars := by
  unfold signedNumeral
  split
  · exact List.cons_subset.2 ⟨by decide, numeral_subset _⟩
  · exact numeral_subset _

theorem zeros_subset (n : Nat) : List.replicate n '0' ⊆ numberChars :=
  List.replicate_subset.2 (.inr (by decide))

theorem paddedNumeral_subset (width n : Nat) : paddedNumeral width n ⊆ numberChars :=
  List.append_subset.2 ⟨zeros_subset _, numeral_subset n⟩

/-! ## Numbers in scientific form -/

theorem lt_ten_of_mem_trim {s : Scientific} (h : ∀ d ∈ s.digits, d < 10) :
    ∀ d ∈ s.trim.digits, d < 10 := by
  intro d hd
  have hKept : d ∈ s.digits.reverse.dropWhile (· == 0) := List.mem_reverse.1 hd
  exact h d (List.mem_reverse.1 ((List.dropWhile_suffix _).subset hKept))

theorem lt_ten_of_mem_shortestFrom (units : Nat) (exponent : Int) (tries : Nat) :
    ∀ d ∈ (shortestFrom units exponent tries).digits, d < 10 := by
  induction tries with
  | zero =>
      intro d hd
      cases hd
  | succ tries ih =>
      unfold shortestFrom
      dsimp only
      split
      · exact lt_ten_of_mem_trim fun _ => lt_ten_of_mem_digits
      · exact ih

theorem pointAfter_subset {keepsPoint : Bool} {whole : Nat} {ds : List Nat}
    (h : ∀ d ∈ ds, d < 10) : pointAfter keepsPoint whole ds ⊆ numberChars := by
  have hFront : (ds.take whole ++ List.replicate (whole - ds.length) 0).map digitChar ⊆
      numberChars := by
    apply map_digitChar_subset
    intro d hd
    rcases List.mem_append.1 hd with hd | hd
    · exact h d (List.mem_of_mem_take hd)
    · rw [List.eq_of_mem_replicate hd]
      decide
  unfold pointAfter
  dsimp only
  split
  · split
    · exact List.append_subset.2 ⟨hFront, by decide⟩
    · exact hFront
  · have hBack : (ds.drop whole).map digitChar ⊆ numberChars :=
      map_digitChar_subset fun d hd => h d (List.mem_of_mem_drop hd)
    exact List.append_subset.2 ⟨hFront, List.cons_subset.2 ⟨by decide, hBack⟩⟩

theorem Layout.write_subset (layout : Layout) {s : Scientific} (h : ∀ d ∈ s.digits, d < 10) :
    layout.write s ⊆ numberChars := by
  unfold Layout.write
  split
  · have hSign : (if s.exponent < 0 then '-' else '+') ∈ numberChars := by
      split <;> decide
    refine List.append_subset.2 ⟨pointAfter_subset h, List.cons_subset.2 ⟨by decide, ?_⟩⟩
    exact List.cons_subset.2 ⟨hSign, paddedNumeral_subset _ _⟩
  · split
    · refine List.cons_subset.2 ⟨by decide, List.cons_subset.2 ⟨by decide, ?_⟩⟩
      exact List.append_subset.2 ⟨zeros_subset _, map_digitChar_subset h⟩
    · exact pointAfter_subset h

end Decimal

/-! ## Binary64 numbers -/

namespace Binary64

theorem text_subset (layout : Decimal.Layout) (x : Binary64) :
    (x.text layout).toList ⊆ numberChars := by
  have hMagnitude : ∀ units, magnitudeText layout Decimal.shortest units ⊆ numberChars := by
    intro units
    unfold magnitudeText
    split
    · exact layout.write_subset (by simp)
    · exact layout.write_subset (Decimal.lt_ten_of_mem_shortestFrom units _ _)
  unfold text textWith
  split
  · decide
  · decide
  · decide
  · rw [String.toList_ofList]
    split
    · exact List.cons_subset.2 ⟨by decide, hMagnitude _⟩
    · exact hMagnitude _

theorem cellText_subset (x : Binary64) : x.cellText.toList ⊆ numberChars := by
  unfold cellText
  split
  · decide
  · decide
  · decide
  · split
    · split
      · rw [String.toList_ofList]
        exact Decimal.signedNumeral_subset _
      · exact text_subset _ _
    · exact text_subset _ _

end Binary64

/-! ## Dates and times -/

/-- The characters that the texts of all cells are made of that are not texts themselves. -/
def cellChars : List Char := numberChars ++ [':', 'T', 'r', 'u', 'l', 's']

theorem subset_cellChars {cs : List Char} (h : cs ⊆ numberChars) : cs ⊆ cellChars :=
  List.subset_append_of_subset_left _ h

theorem nulFree_of_subset {cs : List Char} (h : cs ⊆ cellChars) : NulFree cs :=
  fun hMember => absurd (h hMember) (by decide)

theorem isEncodable_of_subset {cs : List Char} (h : cs ⊆ cellChars) : Text.isEncodable cs := by
  have hNone : cellChars.all fun c => !Text.isSurrogate c := by decide
  exact List.all_eq_true.2 fun c hc => List.all_eq_true.1 hNone c (h hc)

/-- The marks between the parts of dates and times. -/
theorem marks_subset : ['-', ':', '.', 'T'] ⊆ cellChars := by decide

namespace Calendar

theorem padded_subset (width n : Nat) : Decimal.paddedNumeral width n ⊆ cellChars :=
  subset_cellChars (Decimal.paddedNumeral_subset width n)

theorem Date.isoChars_subset (d : Date) : d.isoChars ⊆ cellChars := by
  simp [Date.isoChars, padded_subset, marks_subset (a := '-')]

theorem fractionChars_subset (microsecond : Nat) : fractionChars microsecond ⊆ cellChars := by
  unfold fractionChars
  split <;> simp [padded_subset, marks_subset (a := '.')]

theorem hmsChars_subset (hour minute second : Nat) : hmsChars hour minute second ⊆ cellChars := by
  simp [hmsChars, padded_subset, marks_subset (a := ':')]

theorem Clock.isoChars_subset (c : Clock) : c.isoChars ⊆ cellChars := by
  simp [Clock.isoChars, hmsChars_subset, fractionChars_subset]

theorem Offset.isoChars_subset (o : Offset) : o.isoChars ⊆ cellChars := by
  have hSign : (if o.microseconds < 0 then '-' else '+') ∈ cellChars := by
    split <;> decide
  have hColon : ':' ∈ cellChars := by decide
  unfold Offset.isoChars
  dsimp only
  split <;> simp [hSign, hColon, padded_subset, hmsChars_subset, fractionChars_subset]

theorem offsetChars_subset (offset : Option Offset) : offsetChars offset ⊆ cellChars := by
  cases offset with
  | none => exact List.nil_subset _
  | some o => exact o.isoChars_subset

theorem DateTime.isoChars_subset (t : DateTime) : t.isoChars ⊆ cellChars := by
  have hMark : 'T' ∈ cellChars := by decide
  simp [DateTime.isoChars, hMark, Date.isoChars_subset, Clock.isoChars_subset, offsetChars_subset]

theorem TimeOfDay.isoChars_subset (t : TimeOfDay) : t.isoChars ⊆ cellChars := by
  simp [TimeOfDay.isoChars, Clock.isoChars_subset, offsetChars_subset]

end Calendar

end TableFlow
