import TableFlow.Formula.Lexer
import TableFlow.Proofs.Decimal.Numeral
import TableFlow.Proofs.Formula.Grammar

/-!
# Written tokens

Every token can be written so that it is read back: a name between square brackets, where it is
never taken for a keyword, and everything else as it stands. With white space behind it, no token
runs into the next one.

## Main results

* `Lexer.lexeme?_word` and `Lexer.lexeme?_bracketed`: names are read to their ends.
* `Lexer.lexeme?_written`: a written token is read back, with nothing taken from what follows.
-/

namespace TableFlow.Formula

/-- A token as it is written: a name between square brackets, an empty one as a space. -/
def Token.written (t : Token) : List Char :=
  match t.kind with
  | .identifier => '[' :: ((if t.value = "" then [' '] else t.value.toList) ++ [']'])
  | _ => t.value.toList

/-- Tokens as they are written, a single space between each two of them. -/
def textOfTokens : List Token → List Char
  | [] => []
  | t :: ts => t.written ++ ts.flatMap fun t => ' ' :: t.written

namespace Lexer

/-- The symbols of all operators. -/
def operatorSymbols : List String :=
  keywordOperators ++ (comparisonSymbols ++ sumSymbols ++ productSymbols)

/-- A text between quotation marks, without the first one, and nothing behind it. -/
def IsQuotedRest (mark : Char) (inner : List Char) : Prop :=
  readQuoted? mark inner = some (inner, [])

/-- The tokens that texts are made of. -/
inductive IsLexeme : Token → Prop
  | name {value : List Char} (hBracket : ']' ∉ value) (hStrip : Text.strip value = value) :
      IsLexeme ⟨.identifier, String.ofList value⟩
  | number {cs : List Char} (hNumeral : Decimal.IsNumeral cs) :
      IsLexeme ⟨.literal, String.ofList cs⟩
  | quoted {mark : Char} {inner : List Char} (hMark : mark = '\'' ∨ mark = '"')
      (hInner : IsQuotedRest mark inner) : IsLexeme ⟨.literal, String.ofList (mark :: inner)⟩
  | keyword {word : String} (hWord : word ∈ keywordLiterals) : IsLexeme ⟨.literal, word⟩
  | operator {symbol : String} (hSymbol : symbol ∈ operatorSymbols) : IsLexeme ⟨.operator, symbol⟩
  | punctuation {mark : String} (hMark : mark ∈ ["(", ")", ","]) : IsLexeme (.punctuation mark)

/-! ## Readers that pass -/

theorem readBlanks?_eq_none {c : Char} (cs : List Char) (h : Text.isBlank c = false) :
    readBlanks? (c :: cs) = none :=
  if_neg (by rw [h]; exact Bool.false_ne_true)

theorem readNumber?_eq_none {c : Char} (cs : List Char) (hDigit : Text.isDecimalDigit c = false)
    (hPoint : c ≠ '.') : readNumber? (c :: cs) = none := by
  have hScan : Decimal.scanSignificand? (c :: cs) = none :=
    Decimal.scanSignificand?_nothing (Decimal.noDigitFirst_cons cs hDigit)
      (fun h => hPoint (Option.some.inj h))
  simp only [readNumber?, Decimal.scanUnsigned?, hScan, Option.map_none]

theorem readText?_eq_none {c : Char} (cs : List Char) (h : ¬(c = '\'' ∨ c = '"')) :
    readText? (c :: cs) = none :=
  if_neg h

theorem readBracketed?_eq_none {c : Char} (cs : List Char) (h : c ≠ '[') :
    readBracketed? (c :: cs) = none := by
  unfold readBracketed?
  split
  · next heq => exact absurd (List.cons.inj heq).1 h
  · rfl

/-! ## One kind of token at a time -/

theorem lexeme?_bracketed {name : List Char} (hBracket : ']' ∉ name) (hSome : name ≠ [])
    (rest : List Char) :
    lexeme? ('[' :: (name ++ ']' :: rest)) =
      some (some ⟨.identifier, String.ofList (Text.strip name)⟩, rest) := by
  have hInside : ∀ c ∈ name, (c != ']') = true := by
    intro c hc
    rw [bne_iff_ne]
    rintro rfl
    exact hBracket hc
  have hTake : (name ++ ']' :: rest).takeWhile (· != ']') = name := by
    rw [List.takeWhile_append_of_pos hInside]
    simp
  have hDrop : (name ++ ']' :: rest).dropWhile (· != ']') = ']' :: rest := by
    rw [List.dropWhile_append_of_pos hInside]
    simp
  have hRead : readBracketed? ('[' :: (name ++ ']' :: rest)) =
      some (some ⟨.identifier, String.ofList (Text.strip name)⟩, rest) := by
    cases name with
    | nil => exact absurd rfl hSome
    | cons c name => simp only [readBracketed?, hTake, hDrop]
  unfold lexeme? readers
  rw [List.findSome?_cons, readBlanks?_eq_none _ (by decide), List.findSome?_cons,
    readNumber?_eq_none _ (by decide) (by decide), List.findSome?_cons]
  show List.findSome? _ _ = _
  rw [List.findSome?_cons, hRead]

theorem lexeme?_number {cs rest : List Char} (h : Decimal.IsNumeral cs)
    (hRest : Decimal.BlankFirst rest) :
    lexeme? (cs ++ rest) = some (some ⟨.literal, String.ofList cs⟩, rest) := by
  obtain ⟨literal, hScan⟩ := Decimal.scanUnsigned?_append h hRest
  have hTake : (cs ++ rest).take ((cs ++ rest).length - rest.length) = cs := by
    rw [List.length_append, Nat.add_sub_cancel, List.take_left']
    rfl
  have hBlanks : readBlanks? (cs ++ rest) = none := by
    cases cs with
    | nil => exact absurd rfl (Decimal.ne_nil_of_isNumeral h)
    | cons c cs =>
        exact readBlanks?_eq_none _
          (Decimal.isBlank_of_isNumeralChar (Decimal.isNumeralChar_of_mem h (by simp)))
  unfold lexeme? readers
  rw [List.findSome?_cons, hBlanks, List.findSome?_cons]
  simp only [readNumber?, hScan, Option.map_some, hTake]

theorem readQuoted?_cons {mark c : Char} (h : c ≠ '\\') (rest : List Char) :
    readQuoted? mark (c :: rest) =
      if c = mark then some ([c], rest)
      else (readQuoted? mark rest).map fun (inner, after) => (c :: inner, after) := by
  rw [readQuoted?]
  · rintro d others rfl
    exact absurd rfl h
  · rintro rfl
    exact absurd rfl h

/-- A character that starts no escape sequence and is no single backslash is none at all. -/
theorem ne_backslash_of_alone {c : Char} {others : List Char}
    (hEscape : ∀ d rest, c = '\\' → others = d :: rest → False)
    (hEnd : c = '\\' → others = [] → False) : c ≠ '\\' := by
  intro hBackslash
  cases others with
  | nil => exact hEnd hBackslash rfl
  | cons d others => exact hEscape d others hBackslash rfl

/-- A text between quotation marks ends at its mark, whatever follows. -/
theorem readQuoted?_append {mark : Char} {cs inner after : List Char}
    (h : readQuoted? mark cs = some (inner, after)) (rest : List Char) :
    readQuoted? mark (cs ++ rest) = some (inner, after ++ rest) := by
  fun_induction readQuoted? mark cs generalizing inner with
  | case1 => cases h
  | case2 rest => cases h
  | case3 c others hFeed ih =>
      obtain ⟨⟨read, left⟩, hRead, hEq⟩ := Option.map_eq_some_iff.1 h
      cases hEq
      simp only [List.cons_append, readQuoted?, if_neg hFeed, ih hRead, Option.map_some]
  | case4 => cases h
  | case5 others hEscape hEnd =>
      cases h
      rw [List.cons_append, readQuoted?_cons (ne_backslash_of_alone hEscape hEnd), if_pos rfl]
  | case6 c others hEscape hEnd hMark ih =>
      obtain ⟨⟨read, left⟩, hRead, hEq⟩ := Option.map_eq_some_iff.1 h
      cases hEq
      rw [List.cons_append, readQuoted?_cons (ne_backslash_of_alone hEscape hEnd), if_neg hMark,
        ih hRead]
      rfl

theorem lexeme?_quoted {mark : Char} {inner : List Char} (hMark : mark = '\'' ∨ mark = '"')
    (hInner : IsQuotedRest mark inner) (rest : List Char) :
    lexeme? (mark :: (inner ++ rest)) =
      some (some ⟨.literal, String.ofList (mark :: inner)⟩, rest) := by
  have hRead := readQuoted?_append hInner rest
  have hBlanks : readBlanks? (mark :: (inner ++ rest)) = none := by
    rcases hMark with rfl | rfl <;> exact readBlanks?_eq_none _ (by decide)
  have hNumber : readNumber? (mark :: (inner ++ rest)) = none := by
    rcases hMark with rfl | rfl <;> exact readNumber?_eq_none _ (by decide) (by decide)
  unfold lexeme? readers
  rw [List.findSome?_cons, hBlanks, List.findSome?_cons, hNumber, List.findSome?_cons]
  simp only [readText?, if_pos hMark, hRead, Option.map_some, List.nil_append]

/-- The text ends, or goes on with a character that no word goes on with. -/
def EndsWord (cs : List Char) : Prop := ∀ c ∈ cs.head?, continuesWord c = false

/-- A character that words start with, and characters that they go on with. -/
def IsWord (word : String) : Prop :=
  startsWord (word.toList.headD ' ') = true ∧ word.toList.tail.all continuesWord = true

instance : DecidablePred IsWord := fun word =>
  inferInstanceAs (Decidable (startsWord (word.toList.headD ' ') = true ∧ _))

/-- Words have no characters but those of ASCII. -/
theorem exists_code_of_continuesWord {c : Char} (h : continuesWord c = true) :
    ∃ n < 128, c = Char.ofNat n := by
  have hBelow : ∀ d : Char, d.val ≤ 'z'.val → d.toNat < 128 := fun d hd =>
    Nat.lt_of_le_of_lt (UInt32.le_iff_toNat_le.1 hd) (by decide)
  have hLast : 'Z'.val ≤ 'z'.val ∧ '9'.val ≤ 'z'.val ∧ '_'.val ≤ 'z'.val := by decide
  have hRanges : ((decide (c.val ≥ 'A'.val ∧ c.val ≤ 'Z'.val) ||
      (decide (c.val ≥ 'a'.val) && decide (c.val ≤ 'z'.val))) ||
        (decide (c.val ≥ '0'.val) && decide (c.val ≤ '9'.val)) || c == '_') = true := h
  simp only [Bool.or_eq_true, Bool.and_eq_true, decide_eq_true_eq, beq_iff_eq] at hRanges
  refine ⟨c.toNat, ?_, (Char.ofNat_toNat c).symm⟩
  rcases hRanges with ((hUpper | hLower) | hDigit) | rfl
  · exact hBelow c (UInt32.le_trans hUpper.2 hLast.1)
  · exact hBelow c hLower.2
  · exact hBelow c (UInt32.le_trans hDigit.2 hLast.2.1)
  · exact hBelow _ hLast.2.2

theorem continuesWord_of_startsWord {c : Char} (h : startsWord c = true) :
    continuesWord c = true := by
  simp only [startsWord, Bool.or_eq_true] at h
  simp only [continuesWord, Char.isAlphanum, Bool.or_eq_true]
  exact h.imp_left .inl

/-- No white space and no bracket is part of a word. -/
theorem solid_of_continuesWord {c : Char} (h : continuesWord c = true) :
    Text.isBlank c = false ∧ c ≠ ']' := by
  have hAll : ∀ n < 128, continuesWord (Char.ofNat n) = true →
      Text.isBlank (Char.ofNat n) = false ∧ Char.ofNat n ≠ ']' := by decide +kernel
  obtain ⟨n, hn, rfl⟩ := exists_code_of_continuesWord h
  exact hAll n hn h

/-- No token but a word starts with a character that words start with. -/
theorem unlike_of_startsWord {c : Char} (h : startsWord c = true) :
    Text.isDecimalDigit c = false ∧ c ≠ '.' ∧ ¬(c = '\'' ∨ c = '"') ∧ c ≠ '[' := by
  have hAll : ∀ n < 128, startsWord (Char.ofNat n) = true →
      Text.isDecimalDigit (Char.ofNat n) = false ∧ Char.ofNat n ≠ '.' ∧
        ¬(Char.ofNat n = '\'' ∨ Char.ofNat n = '"') ∧ Char.ofNat n ≠ '[' := by decide +kernel
  obtain ⟨n, hn, rfl⟩ := exists_code_of_continuesWord (continuesWord_of_startsWord h)
  exact hAll n hn h

theorem endsWord_of_blankFirst {cs : List Char} (h : Decimal.BlankFirst cs) : EndsWord cs := by
  intro c hFirst
  have hBlank := h c hFirst
  rw [← Bool.not_eq_true]
  intro hContinues
  rw [(solid_of_continuesWord hContinues).1] at hBlank
  cases hBlank

theorem IsWord.exists_cons {word : String} (h : IsWord word) :
    ∃ c cs, word.toList = c :: cs ∧ startsWord c = true ∧ ∀ d ∈ cs, continuesWord d = true := by
  obtain ⟨hFirst, hAll⟩ := h
  cases hSplit : word.toList with
  | nil =>
      rw [hSplit] at hFirst
      exact absurd hFirst (by decide)
  | cons c cs =>
      rw [hSplit] at hFirst hAll
      exact ⟨c, cs, rfl, hFirst, List.all_eq_true.1 hAll⟩

theorem lexeme?_word {word : String} (hWord : IsWord word) {rest : List Char}
    (hRest : EndsWord rest) :
    lexeme? (word.toList ++ rest) = some (some (wordToken word), rest) := by
  obtain ⟨c, cs, hSplit, hStarts, hOthers⟩ := hWord.exists_cons
  have hBack : String.ofList (c :: cs) = word := by rw [← hSplit, String.ofList_toList]
  obtain ⟨hDigit, hPoint, hMark, hBracket⟩ := unlike_of_startsWord hStarts
  have hBlank := (solid_of_continuesWord (continuesWord_of_startsWord hStarts)).1
  have hSpan : (cs ++ rest).takeWhile continuesWord = cs ∧
      (cs ++ rest).dropWhile continuesWord = rest := by
    rw [List.takeWhile_append_of_pos hOthers, List.dropWhile_append_of_pos hOthers]
    cases rest with
    | nil => simp
    | cons d rest => simp [hRest d rfl]
  unfold lexeme? readers
  rw [hSplit, List.cons_append, List.findSome?_cons, readBlanks?_eq_none _ hBlank,
    List.findSome?_cons, readNumber?_eq_none _ hDigit hPoint, List.findSome?_cons,
    readText?_eq_none _ hMark, List.findSome?_cons, readBracketed?_eq_none _ hBracket,
    List.findSome?_cons]
  simp only [readWord?, if_pos hStarts, hSpan, hBack]

theorem lexeme?_keyword {word : String} (hWord : word ∈ keywordOperators ++ keywordLiterals)
    {rest : List Char} (hRest : Decimal.BlankFirst rest) :
    lexeme? (word.toList ++ rest) = some (some (wordToken word), rest) := by
  have hWords : ∀ word ∈ keywordOperators ++ keywordLiterals, IsWord word := by decide
  exact lexeme?_word (hWords word hWord) (endsWord_of_blankFirst hRest)

/-- The characters that operators start with. -/
def operatorInitials : List Char := ['<', '>', '!', '=', '&', '|', '+', '-', '*', '/', '%']

/-- At a character that operators start with, only operators are read. -/
theorem lexeme?_operator {c : Char} (h : c ∈ operatorInitials) (cs : List Char) :
    lexeme? (c :: cs) = (readLongOperator? (c :: cs)).or (readShortOperator? (c :: cs)) := by
  obtain ⟨hBlank, hDigit, hPoint, hMark, hBracket, hStarts, hPunctuation⟩ :
      Text.isBlank c = false ∧ Text.isDecimalDigit c = false ∧ c ≠ '.' ∧
        ¬(c = '\'' ∨ c = '"') ∧ c ≠ '[' ∧ startsWord c = false ∧ c ∉ ['(', ')', ','] := by
    simp only [operatorInitials, List.mem_cons, List.not_mem_nil, or_false] at h
    rcases h with rfl | rfl | rfl | rfl | rfl | rfl | rfl | rfl | rfl | rfl | rfl <;> decide
  have hWord : readWord? (c :: cs) = none := if_neg (by rw [hStarts]; exact Bool.false_ne_true)
  have hLast : readPunctuation? (c :: cs) = none := if_neg hPunctuation
  unfold lexeme? readers
  rw [List.findSome?_cons, readBlanks?_eq_none _ hBlank, List.findSome?_cons,
    readNumber?_eq_none _ hDigit hPoint, List.findSome?_cons, readText?_eq_none _ hMark,
    List.findSome?_cons, readBracketed?_eq_none _ hBracket, List.findSome?_cons, hWord,
    List.findSome?_cons]
  cases readLongOperator? (c :: cs) with
  | some lexeme => rfl
  | none =>
      rw [List.findSome?_cons]
      cases readShortOperator? (c :: cs) with
      | some lexeme => rfl
      | none =>
          rw [List.findSome?_cons, hLast]
          rfl

/-- No operator of two characters has white space in it. -/
theorem readLongOperator?_eq_none {c : Char} {cs : List Char} (h : Decimal.BlankFirst cs) :
    readLongOperator? (c :: cs) = none := by
  cases cs with
  | nil => rfl
  | cons d cs =>
      have hSolid : ∀ entry ∈ longOperators, Text.isBlank entry.2.1 = false := by decide
      rw [readLongOperator?, Option.map_eq_none_iff]
      refine List.find?_eq_none.2 fun entry hEntry hSame => ?_
      simp only [Bool.and_eq_true, beq_iff_eq] at hSame
      have hBlank := h d rfl
      rw [← hSame.2, hSolid entry hEntry] at hBlank
      cases hBlank

theorem lexeme?_symbol {symbol : String}
    (hSymbol : symbol ∈ comparisonSymbols ++ sumSymbols ++ productSymbols) {rest : List Char}
    (hRest : Decimal.BlankFirst rest) :
    lexeme? (symbol.toList ++ rest) = some (some ⟨.operator, symbol⟩, rest) := by
  have hShort : ∀ c ∈ shortOperators, lexeme? (c :: rest) =
      some (some ⟨.operator, c.toString⟩, rest) := by
    intro c hc
    have hInitials : shortOperators ⊆ operatorInitials := by decide
    have hRead : readShortOperator? (c :: rest) =
        some (some ⟨.operator, c.toString⟩, rest) := if_pos hc
    rw [lexeme?_operator (hInitials hc), readLongOperator?_eq_none hRest, hRead]
    rfl
  simp only [comparisonSymbols, sumSymbols, productSymbols, List.cons_append, List.nil_append,
    List.mem_cons, List.not_mem_nil, or_false] at hSymbol
  rcases hSymbol with rfl | rfl | rfl | rfl | rfl | rfl | rfl | rfl | rfl | rfl | rfl | rfl | rfl
  all_goals first | exact hShort _ (by decide) | exact lexeme?_operator (by decide) _

/-! ## Every token -/

/-- A written token is read back, with nothing taken from what follows. -/
theorem lexeme?_written {t : Token} (h : IsLexeme t) {rest : List Char}
    (hRest : Decimal.BlankFirst rest) :
    lexeme? (t.written ++ rest) = some (some t, rest) := by
  cases h with
  | @name value hBracket hStrip =>
      have hWritten : Token.written ⟨.identifier, String.ofList value⟩ ++ rest =
          '[' :: ((if value = [] then [' '] else value) ++ ']' :: rest) := by
        simp only [Token.written, String.ofList_eq_empty_iff, String.toList_ofList,
          List.cons_append, List.append_assoc, List.nil_append]
      rw [hWritten]
      by_cases hEmpty : value = []
      · subst hEmpty
        exact lexeme?_bracketed (by decide) (by decide) rest
      · rw [if_neg hEmpty, lexeme?_bracketed hBracket hEmpty, hStrip]
  | number hNumeral =>
      simp only [Token.written, String.toList_ofList]
      exact lexeme?_number hNumeral hRest
  | quoted hMark hInner =>
      simp only [Token.written, String.toList_ofList, List.cons_append]
      exact lexeme?_quoted hMark hInner rest
  | @keyword word hWord =>
      have hToken : ∀ word ∈ keywordLiterals, wordToken word = ⟨.literal, word⟩ := by
        decide +kernel
      rw [← hToken word hWord]
      show lexeme? (Token.written (wordToken word) ++ rest) = _
      have hMember : word ∈ keywordOperators ++ keywordLiterals :=
        List.mem_append_right _ hWord
      rw [← lexeme?_keyword hMember hRest, hToken word hWord]
      rfl
  | @operator symbol hSymbol =>
      show lexeme? (symbol.toList ++ rest) = _
      rcases List.mem_append.1 hSymbol with hWord | hSymbol
      · have hToken : ∀ word ∈ keywordOperators, wordToken word = ⟨.operator, word⟩ := by
          decide +kernel
        rw [lexeme?_keyword (List.mem_append_left _ hWord) hRest, hToken symbol hWord]
      · exact lexeme?_symbol hSymbol hRest
  | @punctuation mark hMark =>
      simp only [List.mem_cons, List.not_mem_nil, or_false] at hMark
      rcases hMark with rfl | rfl | rfl <;> cases rest <;> rfl

/-- A written token starts with a character that is not white space. -/
theorem exists_written {t : Token} (h : IsLexeme t) :
    ∃ c cs, t.written = c :: cs ∧ Text.isBlank c = false := by
  cases h with
  | name => exact ⟨'[', _, rfl, by decide⟩
  | @number cs hNumeral =>
      cases cs with
      | nil => exact absurd rfl (Decimal.ne_nil_of_isNumeral hNumeral)
      | cons c cs =>
          refine ⟨c, cs, String.toList_ofList, ?_⟩
          exact Decimal.isBlank_of_isNumeralChar (Decimal.isNumeralChar_of_mem hNumeral (by simp))
  | @quoted mark inner hMark =>
      refine ⟨mark, inner, String.toList_ofList, ?_⟩
      rcases hMark with rfl | rfl <;> decide
  | @keyword word hWord =>
      simp only [keywordLiterals, List.mem_cons, List.not_mem_nil, or_false] at hWord
      rcases hWord with rfl | rfl | rfl <;> exact ⟨_, _, rfl, by decide⟩
  | @operator symbol hSymbol =>
      have hBlank : ∀ symbol ∈ operatorSymbols, Text.isBlank (symbol.toList.headD ' ') = false := by
        decide
      have hFirst := hBlank symbol hSymbol
      cases hSplit : symbol.toList with
      | nil =>
          rw [hSplit] at hFirst
          exact absurd hFirst (by decide)
      | cons c cs =>
          rw [hSplit] at hFirst
          exact ⟨c, cs, hSplit, hFirst⟩
  | @punctuation mark hMark =>
      simp only [List.mem_cons, List.not_mem_nil, or_false] at hMark
      rcases hMark with rfl | rfl | rfl <;> exact ⟨_, _, rfl, by decide⟩

/-! ## One token after the other -/

theorem tokensFrom_of_lexeme? {fuel position : Nat} {cs rest : List Char} {token : Option Token}
    (hSome : cs ≠ []) (h : lexeme? cs = some (token, rest)) :
    ∃ next, tokensFrom (fuel + 1) position cs =
      (tokensFrom fuel next rest).map (token.toList ++ ·) := by
  cases cs with
  | nil => exact absurd rfl hSome
  | cons c cs =>
      refine ⟨position + ((c :: cs).length - rest.length), ?_⟩
      simp only [tokensFrom, h]
      cases tokensFrom fuel (position + ((c :: cs).length - rest.length)) rest <;> rfl

end Lexer

end TableFlow.Formula
