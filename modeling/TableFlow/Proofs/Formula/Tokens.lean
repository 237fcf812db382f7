import TableFlow.Formula.Constant
import TableFlow.Proofs.Formula.Spelling

/-!
# The tokens of a text

What the tokens of a text have in common: no token but the last one ends the formula, and every
literal token has a value. For the numbers this is `Decimal.readBinary64?_of_isNumeral`, since what
is taken as a number is a numeral; for the texts it is that reading ends with the mark that it
started with.

## Main results

* `tokenize_emits`: the tokens of a text are such tokens, and the end of the formula behind them.
* `exists_value_of_tokenize`: so each literal of a text has a value.
-/

namespace TableFlow.Formula

/-- Tells that a token is one that stands before the end of a formula. -/
structure Token.IsInner (t : Token) : Prop where
  notEnd : t.kind ≠ .endOfFormula
  value : t.kind = .literal → ∃ cell, Constant.value? t.value = some cell

theorem Token.isInner_of_kind {t : Token} (hEnd : t.kind ≠ .endOfFormula)
    (hLiteral : t.kind ≠ .literal) : t.IsInner :=
  ⟨hEnd, fun h => absurd h hLiteral⟩

/-! ## Literals with a value -/

namespace Constant

theorem value?_of_quoted? {cs inner : List Char} (h : quoted? cs = some inner) :
    value? (String.ofList cs) = some (.text (String.ofList inner)) := by
  simp only [value?, String.toList_ofList, h]

/-- A numeral has no margins and no separators. -/
theorem number?_eq {cs : List Char} (h : Decimal.IsNumeral cs) :
    number? cs = match Decimal.wholeOfNumeral? cs with
      | some n => some (.int n)
      | none => ((Decimal.readBinary64? cs).or (special? cs)).map .float := by
  have hMember : ∀ c ∈ cs, Decimal.IsNumeralChar c := fun c hc => Decimal.isNumeralChar_of_mem h hc
  have hTrim : Decimal.trimMargins cs = cs :=
    Decimal.trimMargins_eq_self fun c hc => Decimal.isBlank_of_isNumeralChar (hMember c hc)
  have hDrop : Decimal.dropSeparators cs = cs :=
    Decimal.dropSeparators_eq_self fun hc =>
      Decimal.ne_underscore_of_isNumeralChar (hMember _ hc) rfl
  cases hWhole : Decimal.wholeOfNumeral? cs with
  | some n => simp only [number?, hTrim, hDrop, hWhole]
  | none => simp only [number?, hTrim, hDrop, hWhole]

theorem number?_of_isNumeral {cs : List Char} (h : Decimal.IsNumeral cs) :
    ∃ cell, number? cs = some cell := by
  obtain ⟨x, hx⟩ := Decimal.readBinary64?_of_isNumeral h
  rw [number?_eq h, hx]
  cases Decimal.wholeOfNumeral? cs with
  | some n => exact ⟨_, rfl⟩
  | none => exact ⟨_, rfl⟩

/-- Every numeral is the text of a literal with a value. -/
theorem value?_of_isNumeral {cs : List Char} (h : Decimal.IsNumeral cs) :
    ∃ cell, value? (String.ofList cs) = some cell := by
  unfold value?
  rw [String.toList_ofList]
  split
  · exact ⟨_, rfl⟩
  · split
    · exact ⟨_, rfl⟩
    · exact ⟨_, rfl⟩
    · exact ⟨_, rfl⟩
    · exact number?_of_isNumeral h

end Constant

namespace Lexer

/-- What is read up to a quotation mark ends with the mark. -/
theorem getLast?_of_readQuoted? {mark : Char} {cs inner after : List Char}
    (h : readQuoted? mark cs = some (inner, after)) : inner.getLast? = some mark := by
  fun_induction readQuoted? mark cs generalizing inner with
  | case1 => cases h
  | case2 rest => cases h
  | case3 c rest hFeed ih =>
      obtain ⟨⟨read, others⟩, hRead, hEq⟩ := Option.map_eq_some_iff.1 h
      cases hEq
      simp [List.getLast?_cons, ih hRead]
  | case4 => cases h
  | case5 rest =>
      cases h
      rfl
  | case6 c rest _ _ hMark ih =>
      obtain ⟨⟨read, others⟩, hRead, hEq⟩ := Option.map_eq_some_iff.1 h
      cases hEq
      simp [List.getLast?_cons, ih hRead]

theorem IsLexeme.isInner {t : Token} (h : IsLexeme t) : t.IsInner := by
  cases h with
  | name => exact Token.isInner_of_kind (by rintro ⟨⟩) (by rintro ⟨⟩)
  | number hNumeral => exact ⟨by rintro ⟨⟩, fun _ => Constant.value?_of_isNumeral hNumeral⟩
  | @quoted mark inner hMark hInner =>
      refine ⟨by rintro ⟨⟩, fun _ => ?_⟩
      have hLast : (mark :: inner).getLast? = some mark := by
        simp [List.getLast?_cons, getLast?_of_readQuoted? hInner]
      have hQuoted : Constant.quoted? (mark :: inner) =
          some (Constant.unescape inner.dropLast) := by
        simp only [Constant.quoted?, hLast, hMark, and_self, if_true]
      exact ⟨_, Constant.value?_of_quoted? hQuoted⟩
  | keyword hWord =>
      have hValue : ∀ word ∈ keywordLiterals, (Constant.value? word).isSome := by decide
      exact ⟨by rintro ⟨⟩, fun _ => Option.isSome_iff_exists.1 (hValue _ hWord)⟩
  | operator => exact Token.isInner_of_kind (by rintro ⟨⟩) (by rintro ⟨⟩)
  | punctuation => exact Token.isInner_of_kind (by rintro ⟨⟩) (by rintro ⟨⟩)

end Lexer

/-- The tokens of a text end the formula once, and each literal among them has a value. -/
theorem tokenize_emits {text : String} {tokens : List Token} (h : tokenize text = .ok tokens) :
    ∃ body, tokens = body ++ [.endOfFormula] ∧ ∀ t ∈ body, t.IsInner := by
  obtain ⟨body, hTokens, hText⟩ := exists_renders h
  exact ⟨body, hTokens, fun t ht => (hText.isLexeme t ht).isInner⟩

/-- Each literal among the tokens of a text has a value. -/
theorem exists_value_of_tokenize {text : String} {tokens : List Token}
    (h : tokenize text = .ok tokens) {t : Token} (ht : t ∈ tokens) (hLiteral : t.kind = .literal) :
    ∃ cell, Constant.value? t.value = some cell := by
  obtain ⟨body, rfl, hBody⟩ := tokenize_emits h
  rcases List.mem_append.1 ht with hInner | hEnd
  · exact (hBody t hInner).value hLiteral
  · rw [List.mem_singleton.1 hEnd] at hLiteral
    cases hLiteral

end TableFlow.Formula
