import TableFlow.Proofs.Binary64.Difference
import TableFlow.Proofs.Cell.Plain
import TableFlow.Proofs.Decimal.Numeral

/-!
# Texts of whole numbers

The numeral of a whole number and the text that is read as a number meet in the digits. Digits tell
the number they come from, and a text of digits, with a sign or without, is read as the number of
the format that is nearest to it: the number that a cell with the whole number gives. A binary64
number that is whole, and small enough to be written as a numeral, takes the same way and comes back
as an equal number. The sign of a zero is all that can be lost.

## Main results

* `Decimal.readBinary64?_signedNumeral`: numerals are read as the nearest number.
* `intNumeral_injective`: whole numbers with one text are one.
* `Cell.WrittenWhole.exists_text`: the text of a number that is written as a numeral gives an equal
  number.
-/

namespace TableFlow

/-! ## Whole numbers of the format -/

namespace Binary64

theorem numEq_of_rank {x y : Binary64} {place : Int} (hx : x.rank = some place)
    (hy : y.rank = some place) : x.numEq y := by
  rw [numEq, compareRanks, hx, hy]
  exact decide_eq_true rfl

theorem signedUnits_mul (negative : Bool) (m n : Nat) :
    signedUnits negative (m * n) = signedUnits negative m * n := by
  cases negative with
  | false => exact Int.natCast_mul m n
  | true =>
      show -((m * n : Nat) : Int) = -(m : Int) * n
      rw [Int.natCast_mul, Int.neg_mul]

theorem signedUnits_natAbs (n : Int) : signedUnits (decide (n < 0)) n.natAbs = n := by
  by_cases h : n < 0
  · rw [decide_eq_true h]
    show -(n.natAbs : Int) = n
    omega
  · rw [decide_eq_false h]
    show (n.natAbs : Int) = n
    omega

theorem natAbs_mul_unitsPerOne (n : Int) :
    (n * unitsPerOne).natAbs = n.natAbs * unitsPerOne := by
  rw [Int.natAbs_mul, Int.natAbs_natCast]

theorem ofRatio_of_isMagnitude (negative : Bool) {n : Nat} (h : IsMagnitude (n * unitsPerOne)) :
    ofRatio negative n 1 = .finite negative (n * unitsPerOne) h := by
  have hUnits := nearestUnits_of_isMagnitude h
  unfold ofRatio ofUnitRatio
  rw [dif_pos (by rw [hUnits]; exact h.1)]
  simp only [hUnits]

theorem ofRatio_zero (negative : Bool) :
    ofRatio negative 0 1 = .finite negative 0 isMagnitude_zero := by
  have hZero : IsMagnitude (0 * unitsPerOne) := by
    rw [Nat.zero_mul]
    exact isMagnitude_zero
  rw [ofRatio_of_isMagnitude negative hZero]
  simp only [Nat.zero_mul]

/-- A whole number of the format is held exactly by the number nearest to it. -/
theorem rank_nearestInt {n : Int} (h : IsMagnitude (n.natAbs * unitsPerOne)) :
    (nearestInt n).rank = some (n * unitsPerOne) := by
  rw [nearestInt, ofRatio_of_isMagnitude _ h, rank_finite, signedUnits_mul, signedUnits_natAbs]

theorem eq_nearestInt_of_ofInt? {n : Int} {x : Binary64} (h : ofInt? n = some x) :
    nearestInt n = x ∧ x.isFinite := by
  unfold ofInt? at h
  dsimp only at h
  by_cases hFinite : (nearestInt n).isFinite = true
  · rw [if_pos hFinite, Option.some.injEq] at h
    exact ⟨h, h ▸ hFinite⟩
  · rw [if_neg hFinite] at h
    cases h

/-- Whole numbers that are held exactly are reached, and come back at their place. -/
theorem ofInt?_of_toInt? {x : Binary64} {n : Int} (h : x.toInt? = some n) :
    ofInt? n = some (nearestInt n) ∧ (nearestInt n).rank = x.rank := by
  have hRank := rank_of_toInt? h
  have hUnits : IsMagnitude (n.natAbs * unitsPerOne) := by
    cases x with
    | nan => cases h
    | infinite negative => cases h
    | finite negative units hUnits =>
        rw [rank_finite, Option.some.injEq] at hRank
        rwa [← natAbs_mul_unitsPerOne, ← hRank, natAbs_signedUnits]
  constructor
  · unfold ofInt? nearestInt
    rw [ofRatio_of_isMagnitude _ hUnits]
    rfl
  · rw [rank_nearestInt hUnits, hRank]

end Binary64

/-! ## Numerals -/

namespace Decimal

theorem numeral_injective {m n : Nat} (h : numeral m = numeral n) : m = n := by
  have hDigits := congrArg (List.map digitValue) h
  rw [map_digitValue_numeral, map_digitValue_numeral] at hDigits
  rw [← ofDigits_digits m, hDigits, ofDigits_digits]

theorem minus_notMem_numeral (n : Nat) : '-' ∉ numeral n := fun hMinus =>
  absurd (allDigits_numeral n '-' hMinus) (by decide)

theorem signedNumeral_injective {m n : Int} (h : signedNumeral m = signedNumeral n) : m = n := by
  have hOther : ∀ (k : Nat) (cs : List Char), '-' :: cs ≠ numeral k := fun k cs hSame =>
    minus_notMem_numeral k (hSame ▸ List.mem_cons_self)
  unfold signedNumeral at h
  split at h <;> split at h
  · have hAbs := numeral_injective (List.cons.inj h).2
    omega
  · exact absurd h (hOther _ _)
  · exact absurd h.symm (hOther _ _)
  · have hAbs := numeral_injective h
    omega

/-- Apart from a sign, a numeral is digits. -/
theorem mem_signedNumeral {n : Int} {c : Char} (h : c ∈ signedNumeral n) :
    c = '-' ∨ Text.isDecimalDigit c = true := by
  unfold signedNumeral at h
  split at h
  · rcases List.mem_cons.1 h with hMinus | hDigit
    · exact .inl hMinus
    · exact .inr (allDigits_numeral _ c hDigit)
  · exact .inr (allDigits_numeral _ c h)

theorem strip_signedNumeral (n : Int) : Text.strip (signedNumeral n) = signedNumeral n := by
  have hSolid : ∀ c ∈ signedNumeral n, Text.isBlank c = false := by
    intro c hc
    rcases mem_signedNumeral hc with rfl | hDigit
    · decide
    · exact isBlank_of_isDecimalDigit hDigit
  exact Text.strip_eq_self (fun c hFirst => hSolid c (List.mem_of_head? hFirst))
    fun c hLast => hSolid c (List.mem_of_getLast? hLast)

/-! ## Reading numerals -/

theorem scanUnsigned?_numeral (n : Nat) :
    scanUnsigned? (numeral n) =
      some ({ negative := false, digits := digits n, places := 0, exponent := 0 }, []) := by
  have hWhole := scanSignificand?_whole (allDigits_numeral n) (numeral_ne_nil n) noDigitFirst_nil
    (by simp)
  rw [List.append_nil, map_digitValue_numeral] at hWhole
  rw [scanUnsigned?, hWhole]
  rfl

/-- The digits of a whole number denote the number nearest to it. There are not too many of them,
since the format ends far below the bound on exponents. -/
theorem toBinary64_digits (negative : Bool) {n : Nat} (h : n < 2 ^ 1024) :
    Literal.toBinary64 { negative, digits := digits n, places := 0, exponent := 0 } =
      Binary64.ofRatio negative n 1 := by
  have hShort : (digits n).length ≤ 400 :=
    length_digits_le (by decide) (Nat.lt_trans h (by decide +kernel))
  unfold Literal.toBinary64 exponentBound
  dsimp only
  rw [ofDigits_digits]
  by_cases hZero : n = 0
  · rw [if_pos (.inl hZero), hZero, Binary64.ofRatio_zero]
  · rw [if_neg (by omega), if_neg (by omega)]
    rfl

/-- The numeral of a whole number that the format reaches is read as the number nearest to it. -/
theorem readBinary64?_signedNumeral {n : Int} (h : (Binary64.ofInt? n).isSome) :
    readBinary64? (signedNumeral n) = some (Binary64.nearestInt n) := by
  have hBound := Binary64.natAbs_lt_of_ofInt?_isSome h
  unfold readBinary64? Literal.read? signedNumeral Binary64.nearestInt
  by_cases hNegative : n < 0
  · rw [if_pos hNegative, decide_eq_true hNegative, ← toBinary64_digits true hBound]
    simp only [spanSign, scanUnsigned?_numeral, Option.map_some]
  · rw [if_neg hNegative, decide_eq_false hNegative, ← toBinary64_digits false hBound,
      spanSign_of_isNumeral (isNumeral_numeral _)]
    simp only [scanUnsigned?_numeral, Option.map_some]

end Decimal

/-- Whole numbers with one text are one. -/
theorem intNumeral_injective {m n : Int} {text : String} (hm : intNumeral m = .ok text)
    (hn : intNumeral n = .ok text) : m = n := by
  have hSame := congrArg String.toList ((eq_of_intNumeral hm).symm.trans (eq_of_intNumeral hn))
  rw [String.toList_ofList, String.toList_ofList] at hSame
  exact Decimal.signedNumeral_injective hSame

/-- A whole number that the format reaches is written. -/
theorem intNumeral_eq {n : Int} (h : (Binary64.ofInt? n).isSome) :
    intNumeral n = .ok (String.ofList (Decimal.signedNumeral n)) := by
  obtain ⟨text, hText, -⟩ := succeeds_intNumeral h
  rw [hText, eq_of_intNumeral hText]

/-! ## Cells -/

/-- A whole binary64 number is written as a numeral if it is small. -/
theorem Binary64.cellText_of_toInt? {x : Binary64} {n : Int} (h : x.toInt? = some n) :
    x.cellText = if n.natAbs < wholeTextBound.natAbs then String.ofList (Decimal.signedNumeral n)
      else x.text literalLayout := by
  cases x with
  | nan => cases h
  | infinite negative => cases h
  | finite negative units hUnits => simp only [cellText, h]

namespace Cell

/-- A cell with a number that is written as a numeral, and the binary64 number it gives: a whole
number that the format reaches, or a small binary64 number that is whole. -/
inductive WrittenWhole : Cell → Binary64 → Prop
  | int {n : Int} {x : Binary64} (hNearest : Binary64.ofInt? n = some x) : WrittenWhole (.int n) x
  | float {x : Binary64} {n : Int} (hWhole : x.toInt? = some n)
      (hSmall : n.natAbs < wholeTextBound.natAbs) : WrittenWhole (.float x) x

theorem numberOfText_signedNumeral {n : Int} (h : (Binary64.ofInt? n).isSome) :
    numberOfText (String.ofList (Decimal.signedNumeral n)) = Binary64.nearestInt n := by
  rw [numberOfText, String.toList_ofList, Decimal.strip_signedNumeral,
    Decimal.readBinary64?_signedNumeral h, Option.getD_some]

namespace WrittenWhole

variable {cell : Cell} {x : Binary64}

theorem toNumber_eq (h : cell.WrittenWhole x) : cell.toNumber = .ok x := by
  cases h with
  | int hNearest => rw [toNumber_int, hNearest, Option.elim_some]
  | float => rfl

/-- The text of a number that is written as a numeral gives a number at the same place. -/
theorem exists_text (h : cell.WrittenWhole x) : ∃ text place, cell.toText = .ok text ∧
    (numberOfText text).rank = some place ∧ x.rank = some place := by
  cases h with
  | @int n _ hNearest =>
      have hReached : (Binary64.ofInt? n).isSome := Option.isSome_of_eq_some hNearest
      obtain ⟨hNumber, hFinite⟩ := Binary64.eq_nearestInt_of_ofInt? hNearest
      obtain ⟨place, hRank⟩ := Binary64.exists_rank_of_isFinite hFinite
      refine ⟨_, place, intNumeral_eq hReached, ?_, hRank⟩
      rw [numberOfText_signedNumeral hReached, hNumber, hRank]
  | @float _ n hWhole hSmall =>
      obtain ⟨hReached, hRank⟩ := Binary64.ofInt?_of_toInt? hWhole
      have hText := Binary64.cellText_of_toInt? hWhole
      rw [if_pos hSmall] at hText
      refine ⟨_, _, congrArg Except.ok hText, ?_, Binary64.rank_of_toInt? hWhole⟩
      rw [numberOfText_signedNumeral (Option.isSome_of_eq_some hReached), hRank,
        Binary64.rank_of_toInt? hWhole]

end WrittenWhole

end Cell

end TableFlow
