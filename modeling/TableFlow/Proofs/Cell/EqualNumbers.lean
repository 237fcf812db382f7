import TableFlow.Proofs.Cell.SameValue
import TableFlow.Proofs.Cell.WholeText

/-!
# Equal numbers and their texts

Whole numbers and binary64 numbers are compared exactly: one of each kind can be equal, and so can
the two zeros. Equal numbers of one type have one text. Numbers of two types have one text only as
long as the binary64 number is written as a numeral: from `wholeTextBound` on it keeps a point or
has an exponent, and no numeral has either.

## Main results

* `Decimal.Layout.pointOrMark_mem_write`: the layout of a number that is not written as a numeral.
* `Cell.toText_eq_iff`: which equal numbers have one text.
-/

namespace TableFlow

/-! ## Texts that are no numerals -/

namespace Decimal

theorem point_mem_pointAfter (whole : Nat) (ds : List Nat) : '.' ∈ pointAfter true whole ds := by
  unfold pointAfter
  dsimp only
  split
  · simp
  · simp

/-- A layout that keeps the point writes a point or the mark of an exponent. -/
theorem Layout.pointOrMark_mem_write {layout : Layout} (h : layout.keepsPoint = true)
    (s : Scientific) : '.' ∈ layout.write s ∨ 'e' ∈ layout.write s := by
  unfold write
  split
  · exact .inr (by simp)
  · split
    · exact .inl (by simp)
    · rw [h]
      exact .inl (point_mem_pointAfter _ _)

end Decimal

namespace Binary64

/-- The text of a finite number in such a layout is no numeral. -/
theorem text_ne_numeral {layout : Decimal.Layout} (hKeeps : layout.keepsPoint = true)
    {x : Binary64} (hFinite : x.isFinite) (n : Int) :
    x.text layout ≠ String.ofList (Decimal.signedNumeral n) := by
  cases x with
  | nan => cases hFinite
  | infinite negative => cases hFinite
  | finite negative units hUnits =>
      intro hSame
      have hChars := congrArg String.toList hSame
      rw [String.toList_ofList] at hChars
      have hText : ∀ c ∈ magnitudeText layout Decimal.shortest units,
          c ∈ Decimal.signedNumeral n := by
        intro c hc
        rw [← hChars, text, textWith, String.toList_ofList]
        split
        · exact List.mem_cons_of_mem _ hc
        · exact hc
      obtain ⟨s, hWritten⟩ : ∃ s, magnitudeText layout Decimal.shortest units = layout.write s := by
        unfold magnitudeText
        split <;> exact ⟨_, rfl⟩
      rw [hWritten] at hText
      rcases Decimal.Layout.pointOrMark_mem_write hKeeps s with hPoint | hMark
      · exact absurd (Decimal.mem_signedNumeral (hText _ hPoint)) (by decide)
      · exact absurd (Decimal.mem_signedNumeral (hText _ hMark)) (by decide)

theorem isFinite_of_toInt? {x : Binary64} {n : Int} (h : x.toInt? = some n) : x.isFinite := by
  cases x with
  | finite => rfl
  | _ => cases h

theorem eq_of_mul_unitsPerOne_eq {m n : Int} (h : m * unitsPerOne = n * unitsPerOne) : m = n :=
  Int.eq_of_mul_eq_mul_right (Int.natCast_ne_zero.2 (Nat.ne_of_gt unitsPerOne_pos)) h

/-- A finite number at the place of a whole number holds it. -/
theorem toInt?_of_rank {x : Binary64} {n : Int} (hFinite : x.isFinite)
    (h : x.rank = some (n * unitsPerOne)) : x.toInt? = some n := by
  cases x with
  | nan => cases hFinite
  | infinite negative => cases hFinite
  | finite negative units hUnits =>
      rw [rank_finite, Option.some.injEq] at h
      have hAbs : units = n.natAbs * unitsPerOne := by
        rw [← natAbs_mul_unitsPerOne, ← h, natAbs_signedUnits]
      have hSign : signedUnits negative n.natAbs = n := by
        rw [hAbs, signedUnits_mul] at h
        exact eq_of_mul_unitsPerOne_eq h
      rw [toInt?, hAbs, Nat.mul_mod_left, if_pos rfl, Nat.mul_div_cancel _ unitsPerOne_pos, hSign]

end Binary64

namespace Cell

/-- The exact value of a number in units, if it is finite. -/
def units? : Cell → Option Int
  | .int n => some (n * Binary64.unitsPerOne)
  | .float (.finite negative units _) => some (Binary64.signedUnits negative units)
  | _ => none

/-- Finite numbers, of one type or of two, that are equal. -/
def EqualNumbers (a b : Cell) : Prop := ∃ units, a.units? = some units ∧ b.units? = some units

instance decidableEqualNumbers (a b : Cell) : Decidable (a.EqualNumbers b) :=
  decidable_of_iff (a.units?.isSome ∧ a.units? = b.units?) <| by
    rw [Option.isSome_iff_exists]
    constructor
    · rintro ⟨⟨units, hUnits⟩, hSame⟩
      exact ⟨units, hUnits, hSame ▸ hUnits⟩
    · rintro ⟨units, hUnits, hUnits'⟩
      exact ⟨⟨units, hUnits⟩, hUnits.trans hUnits'.symm⟩

/-- Numbers of one type, or numbers that are small. -/
def SafeToMix (a b : Cell) : Prop :=
  a.kindName = b.kindName ∨
    ∀ units, a.units? = some units → units.natAbs < wholeTextBound.natAbs * Binary64.unitsPerOne

theorem units?_float {x : Binary64} {units : Int} :
    (Cell.float x).units? = some units ↔ x.isFinite ∧ x.rank = some units := by
  cases x <;> simp [units?, Binary64.isFinite, Binary64.rank]

theorem exists_of_units? {cell : Cell} {units : Int} (h : cell.units? = some units) :
    (∃ n : Int, cell = .int n ∧ n * Binary64.unitsPerOne = units) ∨
      ∃ x : Binary64, cell = .float x ∧ x.isFinite ∧ x.rank = some units := by
  cases cell with
  | int n => exact .inl ⟨n, rfl, Option.some.inj h⟩
  | float x => exact .inr ⟨x, rfl, units?_float.1 h⟩
  | _ => cases h

theorem isEmpty_of_units? {cell : Cell} {units : Int} (h : cell.units? = some units) :
    cell.isEmpty = false := by
  rcases exists_of_units? h with ⟨n, rfl, -⟩ | ⟨x, rfl, -⟩ <;> rfl

/-- A finite number that converts without overflow has a text. -/
theorem exists_toText_of_units? {cell : Cell} {units : Int} (h : cell.units? = some units)
    (hConverts : HasValue cell.toNumber) : ∃ text, cell.toText = .ok text := by
  rcases exists_of_units? h with ⟨n, rfl, -⟩ | ⟨x, rfl, -⟩
  · obtain ⟨x, hNumber, -⟩ := hConverts
    rw [toNumber_int] at hNumber
    cases hReached : Binary64.ofInt? n with
    | none =>
        rw [hReached] at hNumber
        cases hNumber
    | some x => exact ⟨_, intNumeral_eq (Option.isSome_of_eq_some hReached)⟩
  · exact ⟨x.cellText, rfl⟩

/-- A whole number and a binary64 number that holds it have one text if and only if it is small. -/
theorem toText_int_eq_iff {n : Int} {x : Binary64} (h : x.toInt? = some n) :
    (Cell.int n).toText = (Cell.float x).toText ↔ n.natAbs < wholeTextBound.natAbs := by
  have hReached : (Binary64.ofInt? n).isSome :=
    Option.isSome_of_eq_some (Binary64.ofInt?_of_toInt? h).1
  show intNumeral n = .ok x.cellText ↔ _
  rw [intNumeral_eq hReached, Except.ok.injEq]
  constructor
  · intro hSame
    by_contra hLarge
    refine @Binary64.text_ne_numeral literalLayout rfl x (Binary64.isFinite_of_toInt? h) n ?_
    rw [hSame, Binary64.cellText_of_toInt? h, if_neg hLarge]
  · intro hSmall
    rw [Binary64.cellText_of_toInt? h, if_pos hSmall]

/-- Equal numbers are one whole number, two binary64 numbers at one place of the order, or a whole
number and a binary64 number that holds it. -/
theorem EqualNumbers.cases {a b : Cell} (h : EqualNumbers a b) :
    (∃ n, a = .int n ∧ b = .int n) ∨
      (∃ x y : Binary64, a = .float x ∧ b = .float y ∧ x.rank = y.rank) ∨
      ∃ n x, x.toInt? = some n ∧ (a = .int n ∧ b = .float x ∨ a = .float x ∧ b = .int n) := by
  obtain ⟨units, ha, hb⟩ := h
  have hHolds : ∀ (n : Int) (x : Binary64), n * Binary64.unitsPerOne = units → x.isFinite →
      x.rank = some units → x.toInt? = some n := fun n x hn hFinite hx =>
    Binary64.toInt?_of_rank hFinite (hn ▸ hx)
  rcases exists_of_units? ha with ⟨m, rfl, hm⟩ | ⟨x, rfl, hxFinite, hx⟩ <;>
    rcases exists_of_units? hb with ⟨n, rfl, hn⟩ | ⟨y, rfl, hyFinite, hy⟩
  · exact .inl ⟨m, rfl, congrArg _ (Binary64.eq_of_mul_unitsPerOne_eq (hn.trans hm.symm))⟩
  · exact .inr (.inr ⟨m, y, hHolds m y hm hyFinite hy, .inl ⟨rfl, rfl⟩⟩)
  · exact .inr (.inr ⟨n, x, hHolds n x hn hxFinite hx, .inr ⟨rfl, rfl⟩⟩)
  · exact .inr (.inl ⟨x, y, rfl, rfl, hx.trans hy.symm⟩)

/-- Numbers of two types are safe to mix if the whole number is small. -/
theorem safeToMix_iff {a b : Cell} {n : Int} (ha : a.units? = some (n * Binary64.unitsPerOne))
    (hKinds : a.kindName ≠ b.kindName) : SafeToMix a b ↔ n.natAbs < wholeTextBound.natAbs := by
  have hScaled : (n * Binary64.unitsPerOne).natAbs < wholeTextBound.natAbs * Binary64.unitsPerOne ↔
      n.natAbs < wholeTextBound.natAbs := by
    rw [Binary64.natAbs_mul_unitsPerOne, Nat.mul_lt_mul_right Binary64.unitsPerOne_pos]
  rw [SafeToMix, or_iff_right hKinds, ha, ← hScaled]
  exact ⟨fun h => h _ rfl, fun h units hUnits => Option.some.inj hUnits ▸ h⟩

/-- Equal numbers have one text if and only if they are of one type or small. -/
theorem toText_eq_iff {a b : Cell} (h : EqualNumbers a b) :
    a.toText = b.toText ↔ SafeToMix a b := by
  rcases h.cases with ⟨n, rfl, rfl⟩ | ⟨x, y, rfl, rfl, hRank⟩ |
    ⟨n, x, hWhole, ⟨rfl, rfl⟩ | ⟨rfl, rfl⟩⟩
  · exact iff_of_true rfl (.inl rfl)
  · exact iff_of_true (congrArg Except.ok (Binary64.cellText_eq_of_rank_eq hRank)) (.inl rfl)
  · rw [toText_int_eq_iff hWhole, safeToMix_iff rfl (by simp [kindName])]
  · have hUnits : (Cell.float x).units? = some (n * Binary64.unitsPerOne) :=
      units?_float.2 ⟨Binary64.isFinite_of_toInt? hWhole, Binary64.rank_of_toInt? hWhole⟩
    rw [eq_comm, toText_int_eq_iff hWhole, safeToMix_iff hUnits (by simp [kindName])]

end Cell

end TableFlow
