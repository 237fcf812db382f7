import TableFlow.Decimal.Whole

/-!
# Numerals

The form of the numbers in formulas: digits with an optional point among or around them, and an
optional exponent. The predicates of this file say which texts have the form, without any scanning;
the scanner takes such a text from the front of its input, and reads any such text to its end.

## Main results

* `isNumeral_of_scanUnsigned?`: what the scanner takes is a numeral.
* `scanUnsigned?_append`: the scanner takes a numeral whole, if white space follows or nothing.
* `readBinary64?_of_isNumeral`: every numeral is the numeral of a binary64 number.
* `wholeOfNumeral?_numeral`: the numeral of a whole number is read as that number.
-/

namespace TableFlow.Decimal

open Text (decimalDigit? isDecimalDigit isBlank)

/-- A text of digits only. -/
def AllDigits (cs : List Char) : Prop := ∀ c ∈ cs, isDecimalDigit c = true

/-- A text that does not start with a digit. -/
def NoDigitFirst (cs : List Char) : Prop := ∀ c, cs.head? = some c → isDecimalDigit c = false

/-- Digits with a point among or around them, or without one. -/
inductive IsSignificand : List Char → Prop
  | whole {xs : List Char} (hDigits : AllDigits xs) (hSome : xs ≠ []) : IsSignificand xs
  | pointed {xs ys : List Char} (hWhole : AllDigits xs) (hFraction : AllDigits ys)
      (hSome : xs ++ ys ≠ []) : IsSignificand (xs ++ '.' :: ys)

/-- Nothing, or a mark, a sign that may be missing, and digits. -/
inductive IsExponent : List Char → Prop
  | absent : IsExponent []
  | present {mark : Char} {sign xs : List Char} (hMark : mark = 'e' ∨ mark = 'E')
      (hSign : sign = [] ∨ sign = ['+'] ∨ sign = ['-']) (hDigits : AllDigits xs)
      (hSome : xs ≠ []) : IsExponent (mark :: (sign ++ xs))

/-- A significand and an exponent. -/
def IsNumeral (cs : List Char) : Prop :=
  ∃ significand exponent, IsSignificand significand ∧ IsExponent exponent ∧
    cs = significand ++ exponent

/-- No script has a digit among the white space. -/
theorem isBlank_of_isDecimalDigit {c : Char} (h : isDecimalDigit c = true) :
    isBlank c = false := by
  have hRanges : ∀ first ∈ Text.zeroCodePoints, ∀ range ∈ Text.blankRanges,
      range.2 < first ∨ first + 9 < range.1 := by decide
  unfold isDecimalDigit decimalDigit? at h
  rw [Option.isSome_map, List.find?_isSome] at h
  obtain ⟨first, hFirst, hDigit⟩ := h
  simp only [Bool.and_eq_true, decide_eq_true_eq] at hDigit
  rw [← Bool.not_eq_true]
  intro hBlank
  unfold isBlank at hBlank
  obtain ⟨range, hRange, hInside⟩ := List.any_eq_true.1 hBlank
  simp only [Bool.and_eq_true, decide_eq_true_eq] at hInside
  have hApart := hRanges first hFirst range hRange
  omega

/-- A text that is empty or starts with white space. -/
def BlankFirst (cs : List Char) : Prop := ∀ c, cs.head? = some c → isBlank c = true

theorem blankFirst_nil : BlankFirst [] := by
  intro c hc
  cases hc

/-- A character that is not white space does not stand at the front. -/
theorem BlankFirst.head?_ne {cs : List Char} (h : BlankFirst cs) {c : Char}
    (hc : isBlank c = false) : cs.head? ≠ some c := by
  intro hFirst
  rw [h c hFirst] at hc
  cases hc

/-! ## Spans of digits -/

theorem spanDigits_append {xs ys : List Char} (hx : AllDigits xs) (hy : NoDigitFirst ys) :
    spanDigits (xs ++ ys) = (xs.map digitValue, ys) := by
  unfold spanDigits
  rw [List.takeWhile_append_of_pos hx, List.dropWhile_append_of_pos hx]
  cases ys with
  | nil => simp
  | cons c ys => simp [hy c rfl]

theorem spanDigits_eq_self {cs : List Char} (h : NoDigitFirst cs) : spanDigits cs = ([], cs) :=
  @spanDigits_append [] cs (by simp [AllDigits]) h

/-- Every text is split by its digits. -/
theorem exists_spanDigits (cs : List Char) :
    ∃ xs ys, cs = xs ++ ys ∧ AllDigits xs ∧ NoDigitFirst ys ∧
      spanDigits cs = (xs.map digitValue, ys) := by
  refine ⟨cs.takeWhile isDecimalDigit, cs.dropWhile isDecimalDigit,
    List.takeWhile_append_dropWhile.symm, ?_, ?_, rfl⟩
  · intro c hc
    exact List.all_eq_true.1 List.all_takeWhile c hc
  · intro c hc
    have hFirst := List.head?_dropWhile_not isDecimalDigit cs
    rw [hc] at hFirst
    simpa using hFirst

theorem noDigitFirst_nil : NoDigitFirst [] := by
  intro c hc
  cases hc

theorem noDigitFirst_cons {c : Char} (cs : List Char) (h : isDecimalDigit c = false) :
    NoDigitFirst (c :: cs) := by
  intro d hd
  cases hd
  exact h

theorem BlankFirst.noDigitFirst {cs : List Char} (h : BlankFirst cs) : NoDigitFirst cs := by
  intro c hFirst
  by_cases hDigit : isDecimalDigit c = true
  · exact absurd hFirst (h.head?_ne (isBlank_of_isDecimalDigit hDigit))
  · exact Bool.not_eq_true _ ▸ hDigit

theorem noDigitFirst_exponent {cs rest : List Char} (h : IsExponent cs) (hRest : BlankFirst rest) :
    NoDigitFirst (cs ++ rest) := by
  cases h with
  | absent => exact hRest.noDigitFirst
  | present hMark => rcases hMark with rfl | rfl <;> exact noDigitFirst_cons _ (by decide)

/-! ## The scanner on texts of a known form -/

theorem scanSignificand?_pointed {xs ys rest : List Char} (hx : AllDigits xs) (hy : AllDigits ys)
    (hSome : xs ++ ys ≠ []) (hRest : NoDigitFirst rest) :
    scanSignificand? (xs ++ '.' :: (ys ++ rest)) =
      some ((xs ++ ys).map digitValue, ys.length, rest) := by
  unfold scanSignificand?
  rw [spanDigits_append hx (noDigitFirst_cons _ (by decide))]
  cases xs with
  | nil =>
      cases ys with
      | nil => exact absurd rfl hSome
      | cons y ys =>
          simp only [List.map_nil, spanDigits_append hy hRest, List.map_cons, List.nil_append,
            List.length_cons, List.length_map]
  | cons x xs =>
      simp only [List.map_cons, spanDigits_append hy hRest, List.length_map, List.map_append,
        List.cons_append]

theorem scanSignificand?_whole {xs rest : List Char} (hx : AllDigits xs) (hSome : xs ≠ [])
    (hRest : NoDigitFirst rest) (hPoint : rest.head? ≠ some '.') :
    scanSignificand? (xs ++ rest) = some (xs.map digitValue, 0, rest) := by
  unfold scanSignificand?
  rw [spanDigits_append hx hRest]
  cases xs with
  | nil => exact absurd rfl hSome
  | cons x xs =>
      cases rest with
      | nil => rfl
      | cons c rest =>
          have hc : c ≠ '.' := fun h => hPoint (by rw [h]; rfl)
          split <;> simp_all

theorem scanSignificand?_point_alone {rest : List Char} (hRest : NoDigitFirst rest) :
    scanSignificand? ('.' :: rest) = none := by
  have hPoint : NoDigitFirst ('.' :: rest) := noDigitFirst_cons rest (by decide)
  unfold scanSignificand?
  simp only [spanDigits_eq_self hPoint, spanDigits_eq_self hRest]

theorem scanSignificand?_nothing {rest : List Char} (hRest : NoDigitFirst rest)
    (hPoint : rest.head? ≠ some '.') : scanSignificand? rest = none := by
  unfold scanSignificand?
  rw [spanDigits_eq_self hRest]
  cases rest with
  | nil => rfl
  | cons c rest =>
      have hc : c ≠ '.' := fun h => hPoint (by rw [h]; rfl)
      split <;> simp_all

/-! ## What the scanner takes -/

theorem isSignificand_of_scanSignificand? {cs rest : List Char} {digits : List Nat} {places : Nat}
    (h : scanSignificand? cs = some (digits, places, rest)) :
    ∃ front, IsSignificand front ∧ cs = front ++ rest := by
  obtain ⟨xs, ys, rfl, hx, hy, -⟩ := exists_spanDigits cs
  by_cases hPoint : ys.head? = some '.'
  · obtain ⟨after, rfl⟩ := List.head?_eq_some_iff.1 hPoint
    obtain ⟨us, vs, rfl, hu, hv, -⟩ := exists_spanDigits after
    by_cases hSome : xs ++ us = []
    · obtain ⟨rfl, rfl⟩ := List.append_eq_nil_iff.1 hSome
      rw [List.nil_append, List.nil_append, scanSignificand?_point_alone hv] at h
      cases h
    · rw [scanSignificand?_pointed hx hu hSome hv] at h
      cases h
      exact ⟨xs ++ '.' :: us, .pointed hx hu hSome, by simp⟩
  · by_cases hSome : xs = []
    · rw [hSome, List.nil_append, scanSignificand?_nothing hy hPoint] at h
      cases h
    · rw [scanSignificand?_whole hx hSome hy hPoint] at h
      cases h
      exact ⟨xs, .whole hx hSome, rfl⟩

theorem isExponent_of_scanExponent {cs rest : List Char} {exponent : Int}
    (h : scanExponent cs = (exponent, rest)) : ∃ front, IsExponent front ∧ cs = front ++ rest := by
  have hAbsent : cs = rest → ∃ front, IsExponent front ∧ cs = front ++ rest :=
    fun hEq => ⟨[], .absent, hEq⟩
  cases cs with
  | nil =>
      cases h
      exact hAbsent rfl
  | cons mark after =>
      unfold scanExponent at h
      dsimp only at h
      split at h
      · next hMark =>
        obtain ⟨sign, hSign, hAfter⟩ : ∃ sign,
            (sign = [] ∨ sign = ['+'] ∨ sign = ['-']) ∧ after = sign ++ (spanSign after).2 := by
          unfold spanSign
          split
          · exact ⟨['-'], by simp, rfl⟩
          · exact ⟨['+'], by simp, rfl⟩
          · exact ⟨[], by simp, rfl⟩
        obtain ⟨xs, ys, hSplit, hx, -, hSpan⟩ := exists_spanDigits (spanSign after).2
        rw [hSpan] at h
        cases xs with
        | nil =>
            cases h
            exact hAbsent rfl
        | cons x xs =>
            cases h
            refine ⟨mark :: (sign ++ x :: xs), .present hMark hSign hx (by simp), ?_⟩
            rw [List.cons_append, List.append_assoc, ← hSplit, ← hAfter]
      · cases h
        exact hAbsent rfl

/-- What the scanner takes from the front of a text is a numeral. -/
theorem isNumeral_of_scanUnsigned? {cs rest : List Char} {literal : Literal}
    (h : scanUnsigned? cs = some (literal, rest)) :
    ∃ front, IsNumeral front ∧ cs = front ++ rest := by
  unfold scanUnsigned? at h
  obtain ⟨⟨digits, places, after⟩, hSignificand, hExponent⟩ := Option.map_eq_some_iff.1 h
  obtain ⟨significand, hs, rfl⟩ := isSignificand_of_scanSignificand? hSignificand
  have hScan : scanExponent after = ((scanExponent after).1, rest) := by
    cases hExponent
    rfl
  obtain ⟨exponent, he, rfl⟩ := isExponent_of_scanExponent hScan
  exact ⟨significand ++ exponent, ⟨significand, exponent, hs, he, rfl⟩, by simp⟩

/-! ## Numerals are read to their end -/

/-- A digit is no sign. -/
theorem spanSign_cons_of_isDecimalDigit {c : Char} (rest : List Char)
    (h : isDecimalDigit c = true) : spanSign (c :: rest) = (false, c :: rest) := by
  have hMinus : c ≠ '-' := by
    rintro rfl
    exact absurd h (by decide)
  have hPlus : c ≠ '+' := by
    rintro rfl
    exact absurd h (by decide)
  simp [spanSign, hMinus, hPlus]

theorem scanExponent_append {cs rest : List Char} (h : IsExponent cs) (hRest : BlankFirst rest) :
    ∃ exponent, scanExponent (cs ++ rest) = (exponent, rest) := by
  cases h with
  | absent =>
      cases rest with
      | nil => exact ⟨0, rfl⟩
      | cons c rest =>
          have hMark : ¬ (c = 'e' ∨ c = 'E') := by
            rintro (rfl | rfl)
            · exact hRest.head?_ne (by decide) rfl
            · exact hRest.head?_ne (by decide) rfl
          exact ⟨0, if_neg hMark⟩
  | @present mark sign xs hMark hSign hDigits hSome =>
      have hSpanSign : (spanSign (sign ++ (xs ++ rest))).2 = xs ++ rest := by
        rcases hSign with rfl | rfl | rfl
        · cases xs with
          | nil => exact absurd rfl hSome
          | cons x xs =>
              rw [List.nil_append, List.cons_append,
                spanSign_cons_of_isDecimalDigit _ (hDigits x (by simp))]
        · rfl
        · rfl
      rw [List.cons_append, List.append_assoc]
      unfold scanExponent
      dsimp only
      rw [if_pos hMark, hSpanSign, spanDigits_append hDigits hRest.noDigitFirst]
      cases xs with
      | nil => exact absurd rfl hSome
      | cons x xs => exact ⟨_, rfl⟩

theorem head?_exponent_ne_point {cs rest : List Char} (h : IsExponent cs)
    (hRest : BlankFirst rest) : (cs ++ rest).head? ≠ some '.' := by
  cases h with
  | absent => exact hRest.head?_ne (by decide)
  | present hMark => rcases hMark with rfl | rfl <;> simp

/-- A numeral is scanned to its end. -/
theorem scanUnsigned?_append {cs rest : List Char} (h : IsNumeral cs) (hRest : BlankFirst rest) :
    ∃ literal, scanUnsigned? (cs ++ rest) = some (literal, rest) := by
  obtain ⟨significand, exponent, hSignificand, hExponent, rfl⟩ := h
  have hNoDigit := noDigitFirst_exponent hExponent hRest
  obtain ⟨x, hScan⟩ := scanExponent_append hExponent hRest
  unfold scanUnsigned?
  rw [List.append_assoc]
  cases hSignificand with
  | whole hDigits hSome =>
      rw [scanSignificand?_whole hDigits hSome hNoDigit (head?_exponent_ne_point hExponent hRest)]
      simp only [Option.map_some, hScan]
      exact ⟨_, rfl⟩
  | pointed hWhole hFraction hSome =>
      rw [List.append_assoc, List.cons_append,
        scanSignificand?_pointed hWhole hFraction hSome hNoDigit]
      simp only [Option.map_some, hScan]
      exact ⟨_, rfl⟩

/-- The characters of a numeral. -/
def IsNumeralChar (c : Char) : Prop :=
  isDecimalDigit c = true ∨ c = '.' ∨ c = 'e' ∨ c = 'E' ∨ c = '+' ∨ c = '-'

theorem isNumeralChar_of_mem {cs : List Char} (h : IsNumeral cs) {c : Char} (hc : c ∈ cs) :
    IsNumeralChar c := by
  obtain ⟨significand, exponent, hSignificand, hExponent, rfl⟩ := h
  unfold IsNumeralChar
  rcases List.mem_append.1 hc with hc | hc
  · cases hSignificand with
    | whole hDigits => exact .inl (hDigits c hc)
    | pointed hWhole hFraction =>
        rcases List.mem_append.1 hc with hc | hc
        · exact .inl (hWhole c hc)
        · rcases List.mem_cons.1 hc with rfl | hc
          · simp
          · exact .inl (hFraction c hc)
  · cases hExponent with
    | absent => simp at hc
    | present hMark hSign hDigits =>
        rcases List.mem_cons.1 hc with rfl | hc
        · rcases hMark with rfl | rfl <;> simp
        · rcases List.mem_append.1 hc with hc | hc
          · rcases hSign with rfl | rfl | rfl <;> simp_all
          · exact .inl (hDigits c hc)

theorem ne_nil_of_isNumeral {cs : List Char} (h : IsNumeral cs) : cs ≠ [] := by
  obtain ⟨significand, exponent, hSignificand, -, rfl⟩ := h
  cases hSignificand with
  | whole hDigits hSome => exact List.append_ne_nil_of_left_ne_nil hSome exponent
  | pointed hWhole => simp

/-- A numeral starts with a digit or a point. -/
theorem spanSign_of_isNumeral {cs : List Char} (h : IsNumeral cs) : spanSign cs = (false, cs) := by
  obtain ⟨significand, exponent, hSignificand, -, rfl⟩ := h
  cases hSignificand with
  | whole hDigits hSome =>
      cases significand with
      | nil => exact absurd rfl hSome
      | cons x xs => exact spanSign_cons_of_isDecimalDigit _ (hDigits x (by simp))
  | @pointed xs ys hWhole =>
      cases xs with
      | nil => rfl
      | cons x xs => exact spanSign_cons_of_isDecimalDigit _ (hWhole x (by simp))

/-- Every numeral is the numeral of a binary64 number. -/
theorem readBinary64?_of_isNumeral {cs : List Char} (h : IsNumeral cs) :
    ∃ x, readBinary64? cs = some x := by
  obtain ⟨literal, hScan⟩ := scanUnsigned?_append h blankFirst_nil
  rw [List.append_nil] at hScan
  unfold readBinary64? Literal.read?
  rw [spanSign_of_isNumeral h]
  simp only [hScan, Option.map_some]
  exact ⟨_, rfl⟩

/-! ## Margins and separators -/

theorem isBlank_of_isNumeralChar {c : Char} (h : IsNumeralChar c) : isBlank c = false := by
  rcases h with hDigit | rfl | rfl | rfl | rfl | rfl
  · exact isBlank_of_isDecimalDigit hDigit
  all_goals decide

theorem ne_underscore_of_isNumeralChar {c : Char} (h : IsNumeralChar c) : c ≠ '_' := by
  rintro rfl
  rcases h with hDigit | h | h | h | h | h
  · exact absurd hDigit (by decide)
  all_goals exact absurd h (by decide)

theorem trimMargins_eq_self {cs : List Char} (h : ∀ c ∈ cs, isBlank c = false) :
    trimMargins cs = cs := by
  have hDrop : ∀ xs : List Char, (∀ c ∈ xs, isBlank c = false) → xs.dropWhile isMargin = xs := by
    intro xs hxs
    cases xs with
    | nil => rfl
    | cons x xs => simp [isMargin, hxs x (by simp)]
  unfold trimMargins
  rw [hDrop cs h, hDrop cs.reverse (by simpa using h), List.reverse_reverse]

theorem dropSeparators_eq_self {cs : List Char} (h : '_' ∉ cs) : dropSeparators cs = cs := by
  fun_induction dropSeparators cs with
  | case1 c d rest => simp at h
  | case2 c d rest => simp at h
  | case3 c rest _ ih => rw [ih (fun hc => h (List.mem_cons_of_mem c hc))]
  | case4 => rfl

/-! ## Numerals of whole numbers -/

theorem decimalDigit?_digitChar {d : Nat} (h : d < 10) : decimalDigit? (digitChar d) = some d := by
  have hAll : ∀ d < 10, decimalDigit? (digitChar d) = some d := by decide
  exact hAll d h

theorem allDigits_numeral (n : Nat) : AllDigits (numeral n) := by
  intro c hc
  obtain ⟨d, hd, rfl⟩ := List.mem_map.1 hc
  rw [isDecimalDigit, decimalDigit?_digitChar (lt_ten_of_mem_digits hd)]
  rfl

theorem numeral_ne_nil (n : Nat) : numeral n ≠ [] := by
  unfold numeral
  rw [Ne, List.map_eq_nil_iff]
  exact digits_ne_nil n

theorem isNumeral_numeral (n : Nat) : IsNumeral (numeral n) :=
  ⟨numeral n, [], .whole (allDigits_numeral n) (numeral_ne_nil n), .absent,
    (List.append_nil _).symm⟩

theorem map_digitValue_numeral (n : Nat) : (numeral n).map digitValue = digits n := by
  rw [numeral, List.map_map]
  calc (digits n).map (digitValue ∘ digitChar) = (digits n).map id := by
        apply List.map_congr_left
        intro d hd
        show (decimalDigit? (digitChar d)).getD 0 = d
        rw [decimalDigit?_digitChar (lt_ten_of_mem_digits hd)]
        rfl
    _ = digits n := List.map_id _

/-- The numeral of a whole number is read as that number, unless it is too long. -/
theorem wholeOfNumeral?_numeral {n : Nat} (h : (numeral n).length ≤ digitLimit) :
    wholeOfNumeral? (numeral n) = some (n : Int) := by
  have hSpan := spanDigits_append (allDigits_numeral n) noDigitFirst_nil
  rw [List.append_nil, map_digitValue_numeral] at hSpan
  have hShort : (digits n).length ≤ digitLimit := by
    rwa [numeral, List.length_map] at h
  unfold wholeOfNumeral?
  rw [spanSign_of_isNumeral (isNumeral_numeral n)]
  dsimp only
  rw [hSpan]
  cases hDigits : digits n with
  | nil => exact absurd hDigits (digits_ne_nil n)
  | cons d ds =>
      rw [hDigits] at hShort
      dsimp only
      rw [if_pos hShort, ← hDigits, ofDigits_digits]
      rfl

end TableFlow.Decimal
