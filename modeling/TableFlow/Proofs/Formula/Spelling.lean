import TableFlow.Proofs.Formula.Lexemes
import TableFlow.Proofs.Success

/-!
# Spellings of tokens

A text says more than its tokens do: how much white space there is, which names stand between
brackets, how the letters of a keyword are written, and whether an operator is a word or a symbol.
None of this reaches the tokens. `Spells` holds the ways to spell one token, `Renders` the texts
that spell tokens one after the other.

Both directions rest on single lexemes. What a reader takes from the front of a text is a spelling
of the token that it gives, and a spelling with white space behind it is taken as a whole. Without
white space a spelling can run into the next one, so the first direction has nothing to say about
what comes behind a spelling, and the second one has.

## Main results

* `Lexer.lexeme?_takes`: what is taken is a spelling of its token, or white space.
* `Lexer.lexeme?_spelled`: every spelling of a token is read as the token.
* `exists_renders`: a text consists of spellings of its tokens.
* `tokenize_renders`: spellings that are set apart have the tokens that they spell.
* `tokenize_respelled`: the tokens of a text are those of every text that spells them again.
-/

namespace TableFlow.Formula

namespace Lexer

/-- The ways to spell a token: as it is written, as a name with any white space inside its brackets,
as a word, and with the symbols that stand for keywords. -/
inductive Spells : Token → List Char → Prop
  | written {t : Token} (h : IsLexeme t) : Spells t t.written
  | bracketed {name : List Char} (hBracket : ']' ∉ name) (hSome : name ≠ []) :
      Spells ⟨.identifier, String.ofList (Text.strip name)⟩ ('[' :: (name ++ [']']))
  | word {word : String} (hWord : IsWord word) : Spells (wordToken word) word.toList
  | both : Spells ⟨.operator, "AND"⟩ ['&', '&']
  | either : Spells ⟨.operator, "OR"⟩ ['|', '|']

/-- A text of white space only, or an empty one. -/
abbrev IsGap (cs : List Char) : Prop := ∀ c ∈ cs, Text.isBlank c = true

/-- Texts of tokens: a spelling of each one after the other, with gaps in front of them and behind
the last one. What comes behind a spelling has a property. -/
inductive Renders (Follows : List Char → Prop) : List Token → List Char → Prop
  | ended {gap : List Char} (hGap : IsGap gap) : Renders Follows [] gap
  | token {t : Token} {ts : List Token} {gap piece rest : List Char} (hGap : IsGap gap)
      (hPiece : Spells t piece) (hFollows : Follows rest) (hRest : Renders Follows ts rest) :
      Renders Follows (t :: ts) (gap ++ (piece ++ rest))

/-! ## Spellings are read -/

theorem isLexeme_wordToken {word : String} (h : IsWord word) : IsLexeme (wordToken word) := by
  unfold wordToken
  dsimp only
  split
  · next hOperator => exact .operator (List.mem_append_left _ hOperator)
  · split
    · next hLiteral => exact .keyword hLiteral
    · obtain ⟨c, cs, hSplit, hStarts, hOthers⟩ := h.exists_cons
      have hSolid : ∀ d ∈ word.toList, Text.isBlank d = false ∧ d ≠ ']' := by
        rw [hSplit, List.forall_mem_cons]
        exact ⟨solid_of_continuesWord (continuesWord_of_startsWord hStarts),
          fun d hd => solid_of_continuesWord (hOthers d hd)⟩
      have hStrip : Text.strip word.toList = word.toList :=
        Text.strip_eq_self (fun d hFirst => (hSolid d (List.mem_of_head? hFirst)).1)
          (fun d hLast => (hSolid d (List.mem_of_getLast? hLast)).1)
      have hName := IsLexeme.name (fun hBracket => (hSolid ']' hBracket).2 rfl) hStrip
      rwa [String.ofList_toList] at hName

/-- Whatever has a spelling can also be written. -/
theorem Spells.isLexeme {t : Token} {piece : List Char} (h : Spells t piece) : IsLexeme t := by
  cases h with
  | written h => exact h
  | bracketed hBracket =>
      exact .name (fun h => hBracket (Text.mem_of_mem_strip h)) (Text.strip_strip _)
  | word hWord => exact isLexeme_wordToken hWord
  | both => exact .operator (by decide)
  | either => exact .operator (by decide)

/-- A spelling starts with a character that is not white space. -/
theorem Spells.exists_cons {t : Token} {piece : List Char} (h : Spells t piece) :
    ∃ c cs, piece = c :: cs ∧ Text.isBlank c = false := by
  cases h with
  | written h => exact exists_written h
  | bracketed => exact ⟨'[', _, rfl, by decide⟩
  | word hWord =>
      obtain ⟨c, cs, hSplit, hStarts, -⟩ := hWord.exists_cons
      exact ⟨c, cs, hSplit, (solid_of_continuesWord (continuesWord_of_startsWord hStarts)).1⟩
  | both => exact ⟨'&', _, rfl, by decide⟩
  | either => exact ⟨'|', _, rfl, by decide⟩

/-- Every spelling of a token is read as the token, with nothing taken from what follows. -/
theorem lexeme?_spelled {t : Token} {piece rest : List Char} (h : Spells t piece)
    (hRest : Decimal.BlankFirst rest) : lexeme? (piece ++ rest) = some (some t, rest) := by
  cases h with
  | written h => exact lexeme?_written h hRest
  | bracketed hBracket hSome =>
      rw [List.cons_append, List.append_assoc]
      exact lexeme?_bracketed hBracket hSome rest
  | word hWord => exact lexeme?_word hWord (endsWord_of_blankFirst hRest)
  | both => exact lexeme?_operator (by decide) _
  | either => exact lexeme?_operator (by decide) _

/-! ## What is read is a spelling -/

/-- What a lexeme takes from a text: a spelling of its token, or a gap. -/
inductive Covers : Option Token → List Char → Prop
  | token {t : Token} {piece : List Char} (h : Spells t piece) : Covers (some t) piece
  | gap {gap : List Char} (hSome : gap ≠ []) (hGap : IsGap gap) : Covers none gap

theorem Covers.ne_nil {token : Option Token} {piece : List Char} (h : Covers token piece) :
    piece ≠ [] := by
  cases h with
  | token h =>
      obtain ⟨c, cs, rfl, -⟩ := h.exists_cons
      exact List.cons_ne_nil _ _
  | gap hSome => exact hSome

/-- What a reader gives stands for what it takes from the front of the text. -/
def Takes (reader : List Char → Option Lexeme) : Prop :=
  ∀ {cs : List Char} {token : Option Token} {rest : List Char},
    reader cs = some (token, rest) → ∃ piece, cs = piece ++ rest ∧ Covers token piece

theorem readBlanks?_takes : Takes readBlanks? := by
  intro cs token rest h
  unfold readBlanks? at h
  split at h
  · next c others =>
    split at h
    · next hBlank =>
      cases h
      refine ⟨c :: others.takeWhile Text.isBlank, ?_, .gap (List.cons_ne_nil _ _) ?_⟩
      · rw [List.cons_append, List.takeWhile_append_dropWhile]
      · exact List.forall_mem_cons.2 ⟨hBlank, List.all_eq_true.1 List.all_takeWhile⟩
    · cases h
  · cases h

theorem readNumber?_takes : Takes readNumber? := by
  intro cs token rest h
  obtain ⟨⟨literal, after⟩, hScan, hEq⟩ := Option.map_eq_some_iff.1 h
  cases hEq
  obtain ⟨front, hNumeral, rfl⟩ := Decimal.isNumeral_of_scanUnsigned? hScan
  have hFront : (front ++ rest).take ((front ++ rest).length - rest.length) = front := by
    rw [List.length_append, Nat.add_sub_cancel, List.take_left']
    rfl
  have hSpells := Spells.written (.number hNumeral)
  rw [hFront]
  refine ⟨front, rfl, .token ?_⟩
  simpa only [Token.written, String.toList_ofList] using hSpells

/-- What is read up to a quotation mark ends there. -/
theorem split_of_readQuoted? {mark : Char} {cs inner after : List Char}
    (h : readQuoted? mark cs = some (inner, after)) :
    cs = inner ++ after ∧ IsQuotedRest mark inner := by
  unfold IsQuotedRest
  fun_induction readQuoted? mark cs generalizing inner with
  | case1 => cases h
  | case2 rest => cases h
  | case3 c others hFeed ih =>
      obtain ⟨⟨read, left⟩, hRead, hEq⟩ := Option.map_eq_some_iff.1 h
      cases hEq
      obtain ⟨rfl, hRest⟩ := ih hRead
      exact ⟨rfl, by simp only [readQuoted?, if_neg hFeed, hRest, Option.map_some]⟩
  | case4 => cases h
  | case5 others hEscape hEnd =>
      cases h
      refine ⟨rfl, ?_⟩
      rw [readQuoted?_cons (ne_backslash_of_alone hEscape hEnd), if_pos rfl]
  | case6 c others hEscape hEnd hMark ih =>
      obtain ⟨⟨read, left⟩, hRead, hEq⟩ := Option.map_eq_some_iff.1 h
      cases hEq
      obtain ⟨rfl, hRest⟩ := ih hRead
      refine ⟨rfl, ?_⟩
      rw [readQuoted?_cons (ne_backslash_of_alone hEscape hEnd), if_neg hMark, hRest]
      rfl

theorem readText?_takes : Takes readText? := by
  intro cs token rest h
  unfold readText? at h
  split at h
  · next mark others =>
    split at h
    · next hMark =>
      obtain ⟨⟨inner, after⟩, hRead, hEq⟩ := Option.map_eq_some_iff.1 h
      cases hEq
      obtain ⟨rfl, hInner⟩ := split_of_readQuoted? hRead
      have hSpells := Spells.written (.quoted hMark hInner)
      refine ⟨mark :: inner, rfl, .token ?_⟩
      simpa only [Token.written, String.toList_ofList] using hSpells
    · cases h
  · cases h

theorem readBracketed?_takes : Takes readBracketed? := by
  intro cs token rest h
  unfold readBracketed? at h
  split at h
  · next others =>
    have hSplit := @List.takeWhile_append_dropWhile _ (· != ']') others
    have hInside : ∀ c ∈ others.takeWhile (· != ']'), (c != ']') = true :=
      List.all_eq_true.1 List.all_takeWhile
    split at h
    · cases h
    · next after hAfter hSome =>
      cases h
      rw [hAfter] at hSplit
      refine ⟨_, ?_, .token (.bracketed (fun hBracket => ?_) hSome)⟩
      · rw [List.cons_append, List.append_assoc]
        exact congrArg ('[' :: ·) hSplit.symm
      · exact absurd (hInside ']' hBracket) (by decide)
    · cases h
  · cases h

theorem readWord?_takes : Takes readWord? := by
  intro cs token rest h
  unfold readWord? at h
  split at h
  · next c others =>
    split at h
    · next hStarts =>
      cases h
      have hWord : IsWord (String.ofList (c :: others.takeWhile continuesWord)) := by
        rw [IsWord, String.toList_ofList]
        exact ⟨hStarts, List.all_takeWhile⟩
      have hSpells := Spells.word hWord
      rw [String.toList_ofList] at hSpells
      refine ⟨_, ?_, .token hSpells⟩
      rw [List.cons_append, List.takeWhile_append_dropWhile]
    · cases h
  · cases h

theorem readLongOperator?_takes : Takes readLongOperator? := by
  intro cs token rest h
  unfold readLongOperator? at h
  split at h
  · next c d others =>
    obtain ⟨⟨first, second, value⟩, hFind, hEq⟩ := Option.map_eq_some_iff.1 h
    cases hEq
    have hSame := List.find?_some hFind
    simp only [Bool.and_eq_true, beq_iff_eq] at hSame
    obtain ⟨rfl, rfl⟩ := hSame
    refine ⟨[first, second], rfl, .token ?_⟩
    have hEntry := List.mem_of_find?_eq_some hFind
    simp only [longOperators, List.mem_cons, List.not_mem_nil, or_false, Prod.mk.injEq] at hEntry
    rcases hEntry with ⟨rfl, rfl, rfl⟩ | ⟨rfl, rfl, rfl⟩ | ⟨rfl, rfl, rfl⟩ | ⟨rfl, rfl, rfl⟩ |
      ⟨rfl, rfl, rfl⟩ | ⟨rfl, rfl, rfl⟩ | ⟨rfl, rfl, rfl⟩
    · exact .written (.operator (by decide))
    · exact .written (.operator (by decide))
    · exact .written (.operator (by decide))
    · exact .written (.operator (by decide))
    · exact .written (.operator (by decide))
    · exact .both
    · exact .either
  · cases h

theorem readShortOperator?_takes : Takes readShortOperator? := by
  intro cs token rest h
  unfold readShortOperator? at h
  split at h
  · next c others =>
    split at h
    · next hOperator =>
      cases h
      have hSymbols : shortOperators.map Char.toString ⊆ operatorSymbols := by decide
      refine ⟨[c], rfl, .token ?_⟩
      have hSpells := Spells.written (.operator (hSymbols (List.mem_map_of_mem hOperator)))
      simpa only [Token.written, Char.toString, String.toList_singleton] using hSpells
    · cases h
  · cases h

theorem readPunctuation?_takes : Takes readPunctuation? := by
  intro cs token rest h
  unfold readPunctuation? at h
  split at h
  · next c others =>
    split at h
    · next hMark =>
      cases h
      have hMarks : ['(', ')', ','].map Char.toString ⊆ ["(", ")", ","] := by decide
      refine ⟨[c], rfl, .token ?_⟩
      have hSpells := Spells.written (.punctuation (hMarks (List.mem_map_of_mem hMark)))
      simpa only [Token.punctuation, Token.written, Char.toString, String.toList_singleton]
        using hSpells
    · cases h
  · cases h

/-- What is taken from a text is a spelling of its token, or white space. -/
theorem lexeme?_takes : Takes lexeme? := by
  intro cs token rest h
  obtain ⟨reader, hMember, hRead⟩ := List.exists_of_findSome?_eq_some h
  simp only [readers, List.mem_cons, List.not_mem_nil, or_false] at hMember
  rcases hMember with rfl | rfl | rfl | rfl | rfl | rfl | rfl | rfl
  · exact readBlanks?_takes hRead
  · exact readNumber?_takes hRead
  · exact readText?_takes hRead
  · exact readBracketed?_takes hRead
  · exact readWord?_takes hRead
  · exact readLongOperator?_takes hRead
  · exact readShortOperator?_takes hRead
  · exact readPunctuation?_takes hRead

/-! ## Tokens of renderings -/

theorem lexeme?_gap {gap cs : List Char} (hSome : gap ≠ []) (hGap : IsGap gap)
    (hSolid : ∀ c ∈ cs.head?, Text.isBlank c = false) :
    lexeme? (gap ++ cs) = some (none, cs) := by
  cases gap with
  | nil => exact absurd rfl hSome
  | cons c gap =>
      obtain ⟨hBlank, hOthers⟩ := List.forall_mem_cons.1 hGap
      have hDrop : (gap ++ cs).dropWhile Text.isBlank = cs := by
        rw [List.dropWhile_append_of_pos hOthers]
        cases cs with
        | nil => rfl
        | cons d cs => exact List.dropWhile_cons_of_neg (by simp [hSolid d rfl])
      have hRead : readBlanks? (c :: (gap ++ cs)) = some (none, cs) := by
        rw [readBlanks?, if_pos hBlank, hDrop]
      unfold lexeme? readers
      rw [List.cons_append, List.findSome?_cons, hRead]

/-- The tokens of a text, from any position on and with any fuel that is enough. -/
def HasTokens (cs : List Char) (tokens : List Token) : Prop :=
  ∀ fuel position, cs.length ≤ fuel → tokensFrom fuel position cs = .ok tokens

theorem hasTokens_nil : HasTokens [] [.endOfFormula] := by
  rintro (_ | fuel) position - <;> rfl

/-- What is taken from the front of a text gives its token to the tokens of the text. -/
theorem HasTokens.append {piece cs : List Char} {token : Option Token} {tokens : List Token}
    (h : HasTokens cs tokens) (hSome : piece ≠ [])
    (hPiece : lexeme? (piece ++ cs) = some (token, cs)) :
    HasTokens (piece ++ cs) (token.toList ++ tokens) := by
  intro fuel position hFuel
  have hLength := List.length_pos_iff.2 hSome
  rw [List.length_append] at hFuel
  obtain ⟨more, rfl⟩ : ∃ more, fuel = more + 1 := ⟨fuel - 1, by omega⟩
  obtain ⟨next, hStep⟩ := @tokensFrom_of_lexeme? more position _ _ _ (by simp [hSome]) hPiece
  rw [hStep, h more next (by omega)]
  rfl

theorem HasTokens.gap_append {gap cs : List Char} {tokens : List Token} (h : HasTokens cs tokens)
    (hGap : IsGap gap) (hSolid : ∀ c ∈ cs.head?, Text.isBlank c = false) :
    HasTokens (gap ++ cs) tokens := by
  by_cases hSome : gap = []
  · rw [hSome]
    exact h
  · exact h.append hSome (lexeme?_gap hSome hGap hSolid)

/-- Spellings that are set apart have the tokens that they spell. -/
theorem hasTokens_of_renders {ts : List Token} {cs : List Char}
    (h : Renders Decimal.BlankFirst ts cs) : HasTokens cs (ts ++ [.endOfFormula]) := by
  induction h with
  | ended hGap =>
      have hText := hasTokens_nil.gap_append hGap (by simp)
      rwa [List.append_nil] at hText
  | token hGap hPiece hFollows hRest ih =>
      obtain ⟨c, cs, rfl, hBlank⟩ := hPiece.exists_cons
      have hText := ih.append (List.cons_ne_nil _ _) (lexeme?_spelled hPiece hFollows)
      exact hText.gap_append hGap (by rintro d ⟨⟩; exact hBlank)

/-! ## Renderings of tokens -/

theorem Renders.gap_append {Follows : List Char → Prop} {ts : List Token} {gap cs : List Char}
    (h : Renders Follows ts cs) (hGap : IsGap gap) : Renders Follows ts (gap ++ cs) := by
  cases h with
  | ended hEnd => exact .ended (List.forall_mem_append.2 ⟨hGap, hEnd⟩)
  | token hFirst hPiece hFollows hRest =>
      rw [← List.append_assoc]
      exact .token (List.forall_mem_append.2 ⟨hGap, hFirst⟩) hPiece hFollows hRest

theorem Renders.isLexeme {Follows : List Char → Prop} {ts : List Token} {cs : List Char}
    (h : Renders Follows ts cs) : ∀ t ∈ ts, IsLexeme t := by
  induction h with
  | ended => exact List.forall_mem_nil _
  | token _ hPiece _ _ ih => exact List.forall_mem_cons.2 ⟨hPiece.isLexeme, ih⟩

/-- A text consists of spellings of its tokens. -/
theorem exists_renders_of_tokensFrom {fuel position : Nat} {cs : List Char} {tokens : List Token}
    (hFuel : cs.length ≤ fuel) (h : tokensFrom fuel position cs = .ok tokens) :
    ∃ ts, tokens = ts ++ [.endOfFormula] ∧ Renders (fun _ => True) ts cs := by
  induction fuel generalizing position cs tokens with
  | zero =>
      cases List.length_eq_zero_iff.1 (Nat.le_zero.1 hFuel)
      cases h
      exact ⟨[], rfl, .ended (List.forall_mem_nil _)⟩
  | succ fuel ih =>
      cases cs with
      | nil =>
          cases h
          exact ⟨[], rfl, .ended (List.forall_mem_nil _)⟩
      | cons c cs =>
          unfold tokensFrom at h
          split at h
          · cases h
          · next token rest hLexeme =>
            obtain ⟨others, hOthers, hEq⟩ := bind_eq_ok_iff.1 h
            cases hEq
            obtain ⟨piece, hSplit, hCovers⟩ := lexeme?_takes hLexeme
            have hShort : rest.length ≤ fuel := by
              have hLength := congrArg List.length hSplit
              have hSome := List.length_pos_iff.2 hCovers.ne_nil
              rw [List.length_append] at hLength
              omega
            obtain ⟨ts, rfl, hRest⟩ := ih hShort hOthers
            rw [hSplit]
            cases hCovers with
            | token hPiece =>
                exact ⟨_ :: ts, rfl, @Renders.token _ _ _ [] _ _ (List.forall_mem_nil _) hPiece
                  trivial hRest⟩
            | gap _ hGap => exact ⟨ts, rfl, hRest.gap_append hGap⟩

/-- Tokens with a space in front of each are a rendering of them. -/
theorem renders_spaced {ts : List Token} (h : ∀ t ∈ ts, IsLexeme t) :
    Renders Decimal.BlankFirst ts (ts.flatMap fun t => ' ' :: t.written) ∧
      Decimal.BlankFirst (ts.flatMap fun t => ' ' :: t.written) := by
  induction ts with
  | nil => exact ⟨.ended (List.forall_mem_nil _), Decimal.blankFirst_nil⟩
  | cons t ts ih =>
      obtain ⟨hFirst, hOthers⟩ := List.forall_mem_cons.1 h
      obtain ⟨hRest, hFollows⟩ := ih hOthers
      have hSpace : IsGap [' '] := List.forall_mem_singleton.2 (by decide)
      refine ⟨@Renders.token _ t ts [' '] _ _ hSpace (.written hFirst) hFollows hRest, ?_⟩
      rintro c ⟨⟩
      decide

theorem renders_textOfTokens {ts : List Token} (h : ∀ t ∈ ts, IsLexeme t) :
    Renders Decimal.BlankFirst ts (textOfTokens ts) := by
  cases ts with
  | nil => exact .ended (List.forall_mem_nil _)
  | cons t ts =>
      obtain ⟨hFirst, hOthers⟩ := List.forall_mem_cons.1 h
      obtain ⟨hRest, hFollows⟩ := renders_spaced hOthers
      exact @Renders.token _ t ts [] _ _ (List.forall_mem_nil _) (.written hFirst) hFollows hRest

end Lexer

/-! ## Whole texts -/

/-- A text consists of spellings of its tokens, and the end of the formula is behind them. -/
theorem exists_renders {text : String} {tokens : List Token} (h : tokenize text = .ok tokens) :
    ∃ ts, tokens = ts ++ [.endOfFormula] ∧ Lexer.Renders (fun _ => True) ts text.toList :=
  Lexer.exists_renders_of_tokensFrom (Nat.le_of_eq String.length_toList) h

/-- Spellings that are set apart by white space have the tokens that they spell. -/
theorem tokenize_renders {text : String} {ts : List Token}
    (h : Lexer.Renders Decimal.BlankFirst ts text.toList) :
    tokenize text = .ok (ts ++ [.endOfFormula]) :=
  Lexer.hasTokens_of_renders h _ _ (Nat.le_of_eq String.length_toList)

/-- Written tokens are the tokens of their text, and the end of the formula behind them. -/
theorem tokenize_textOfTokens {ts : List Token} (h : ∀ t ∈ ts, Lexer.IsLexeme t) :
    tokenize (String.ofList (textOfTokens ts)) = .ok (ts ++ [.endOfFormula]) := by
  refine tokenize_renders ?_
  rw [String.toList_ofList]
  exact Lexer.renders_textOfTokens h

/-- **The tokens of a text are those of every text that spells them again.** A text that has tokens
consists of spellings of them, and of white space. Written once more with single spaces in between,
each name between square brackets and everything else as its own text, they are the tokens of what
is written. So they are for any other spellings with any white space between them: as a word or
between brackets, with keywords in any case, with words or symbols for the operators that have
both. -/
theorem tokenize_respelled {text : String} {tokens : List Token}
    (h : tokenize text = .ok tokens) :
    ∃ ts, tokens = ts ++ [.endOfFormula] ∧ Lexer.Renders (fun _ => True) ts text.toList ∧
      tokenize (String.ofList (textOfTokens ts)) = .ok tokens ∧
      ∀ other : String, Lexer.Renders Decimal.BlankFirst ts other.toList →
        tokenize other = .ok tokens := by
  obtain ⟨ts, rfl, hText⟩ := exists_renders h
  exact ⟨ts, rfl, hText, tokenize_textOfTokens hText.isLexeme, fun other => tokenize_renders⟩

/-- A text without the spaces that it could have, and with some that it could do without. -/
def crampedText : String := "nOt[ Unit  Price\t]>=1.5E-3&&len(_x1)<>'it\\'s'||\nfalse=.5[ ]-2.e"

/-- The tokens of the text but for the end. -/
def crampedTokens : List Token := [
  ⟨.operator, "NOT"⟩, ⟨.identifier, "Unit  Price"⟩, ⟨.operator, ">="⟩, ⟨.literal, "1.5E-3"⟩,
  ⟨.operator, "AND"⟩, ⟨.identifier, "len"⟩, .punctuation "(", ⟨.identifier, "_x1"⟩,
  .punctuation ")", ⟨.operator, "<>"⟩, ⟨.literal, "'it\\'s'"⟩, ⟨.operator, "OR"⟩,
  ⟨.literal, "FALSE"⟩, ⟨.operator, "="⟩, ⟨.literal, ".5"⟩, ⟨.identifier, ""⟩, ⟨.operator, "-"⟩,
  ⟨.literal, "2."⟩, ⟨.identifier, "e"⟩]

theorem tokenize_respelled_crampedText :
    tokenize crampedText = .ok (crampedTokens ++ [.endOfFormula]) ∧
      tokenize ("NOT [Unit  Price] >= 1.5E-3 AND [len] ( [_x1] ) <> 'it\\'s' OR FALSE = .5 " ++
        "[ ] - 2. [e]") = .ok (crampedTokens ++ [.endOfFormula]) := by
  have hTokens : tokenize crampedText = .ok (crampedTokens ++ [.endOfFormula]) := by
    decide +kernel
  obtain ⟨ts, hSame, -, hWritten, -⟩ := tokenize_respelled hTokens
  cases List.append_cancel_right hSame
  exact ⟨hTokens, hWritten⟩

end TableFlow.Formula
