import TableFlow.Proofs.Formula.Parsing

/-!
# Expressions as texts

An expression is written with names between square brackets, texts between double quotes, spaces
between all tokens, and parentheses where an operand is of a looser level than its place. Reading
the text gives the expression back, exactly when there are calls enough to read it; how many it
takes, `Expr.nesting` counts on the expression.

A written expression is followed through three things at once: the grammar derives it, the parser
reads it at a certain depth, and each of its tokens can be read back (`Writes`). Each way to put
expressions together keeps all three.

## Main results

* `Constant.value?_written`: a written literal has its value.
* `writes`: an expression is derived at its level, and read at its depth.
* `read_text`: reading gives back what was written.
-/

namespace TableFlow.Formula

open Formula.Parser

/-! ## Literals -/

namespace Constant

/-- A text with a backslash in front of every backslash and every double quote. -/
def escaped (cs : List Char) : List Char :=
  cs.flatMap fun c => if c = '"' ∨ c = '\\' then ['\\', c] else [c]

/-- A value as it is written in a formula. Only whole numbers, texts, truth values and the missing
value are. -/
def written : Cell → String
  | .int n => String.ofList (Decimal.signedNumeral n)
  | .text s => String.ofList ('"' :: (escaped s.toList ++ ['"']))
  | .bool true => "TRUE"
  | .bool false => "FALSE"
  | .missing => "NULL"
  | _ => ""

theorem written_whole (n : Nat) : written (.int n) = String.ofList (Decimal.numeral n) := by
  rw [written, Decimal.signedNumeral, if_neg (by omega), Int.natAbs_natCast]

theorem escaped_cons (c : Char) (cs : List Char) :
    escaped (c :: cs) = (if c = '"' ∨ c = '\\' then ['\\', c] else [c]) ++ escaped cs := rfl

theorem unescape_cons {c : Char} (h : c ≠ '\\') (rest : List Char) :
    unescape (c :: rest) = c :: unescape rest := by
  rw [unescape]
  rintro d others rfl
  exact absurd rfl h

theorem unescape_escaped (cs : List Char) : unescape (escaped cs) = cs := by
  induction cs with
  | nil => rfl
  | cons c cs ih =>
      rw [escaped_cons]
      by_cases hEscape : c = '"' ∨ c = '\\'
      · have hFeed : c ≠ '\n' := by
          rcases hEscape with rfl | rfl <;> decide
        rw [if_pos hEscape, List.cons_append, List.cons_append, List.nil_append, unescape,
          if_neg hFeed, ih]
      · rw [if_neg hEscape, List.cons_append, List.nil_append,
          unescape_cons (fun h => hEscape (.inr h)), ih]

/-- An escaped text ends at the first double quote behind it. -/
theorem isQuotedRest_escaped (cs : List Char) : Lexer.IsQuotedRest '"' (escaped cs ++ ['"']) := by
  induction cs with
  | nil => rfl
  | cons c cs ih =>
      have hRead : Lexer.readQuoted? '"' (escaped cs ++ ['"']) =
          some (escaped cs ++ ['"'], []) := ih
      show Lexer.readQuoted? '"' (escaped (c :: cs) ++ ['"']) = _
      rw [escaped_cons]
      by_cases hEscape : c = '"' ∨ c = '\\'
      · have hFeed : c ≠ '\n' := by
          rcases hEscape with rfl | rfl <;> decide
        rw [if_pos hEscape, List.append_assoc, List.cons_append, List.cons_append,
          List.nil_append, Lexer.readQuoted?, if_neg hFeed, hRead]
        rfl
      · obtain ⟨hMark, hBackslash⟩ := not_or.1 hEscape
        rw [if_neg hEscape, List.append_assoc, List.cons_append, List.nil_append,
          Lexer.readQuoted?_cons hBackslash, if_neg hMark, hRead]
        rfl

theorem quoted?_eq_none {c : Char} (cs : List Char) (h : ¬ (c = '\'' ∨ c = '"')) :
    quoted? (c :: cs) = none := by
  unfold quoted?
  cases (c :: cs).getLast? with
  | none => rfl
  | some last => exact if_neg fun hBoth => h hBoth.2

theorem quoted?_written (cs : List Char) : quoted? ('"' :: (escaped cs ++ ['"'])) = some cs := by
  have hLast : ('"' :: (escaped cs ++ ['"'])).getLast? = some '"' := by
    rw [← List.cons_append, List.getLast?_concat]
  unfold quoted?
  rw [hLast]
  simp only [or_true, and_self, if_true, List.dropLast_concat, unescape_escaped]

/-- The values that are written as literals. -/
inductive IsWritable : Cell → Prop
  | whole {n : Nat} (hShort : (Decimal.numeral n).length ≤ Decimal.digitLimit) : IsWritable (.int n)
  | text (s : String) : IsWritable (.text s)
  | bool (b : Bool) : IsWritable (.bool b)
  | missing : IsWritable .missing

theorem value?_numeral {n : Nat} (h : (Decimal.numeral n).length ≤ Decimal.digitLimit) :
    value? (String.ofList (Decimal.numeral n)) = some (.int n) := by
  obtain ⟨c, cs, hSplit⟩ := List.exists_cons_of_ne_nil (Decimal.numeral_ne_nil n)
  have hDigit : Text.isDecimalDigit c = true :=
    Decimal.allDigits_numeral n c (by rw [hSplit]; exact List.mem_cons_self)
  have hFirst : ∀ d, Text.isDecimalDigit d = false → c ≠ d := by
    rintro d hOther rfl
    rw [hDigit] at hOther
    cases hOther
  have hQuoted : quoted? (Decimal.numeral n) = none := by
    rw [hSplit]
    exact quoted?_eq_none cs (not_or.2 ⟨hFirst _ (by decide), hFirst _ (by decide)⟩)
  have hKeyword : ∀ word : String, Text.isDecimalDigit (word.toList.headD ' ') = false →
      String.ofList (Decimal.numeral n) ≠ word := by
    rintro _ hOther rfl
    rw [String.toList_ofList, hSplit] at hOther
    exact hFirst c hOther rfl
  unfold value?
  rw [String.toList_ofList, hQuoted]
  split
  · cases ‹_ = some _›
  · split
    · exact absurd ‹_› (hKeyword _ (by decide))
    · exact absurd ‹_› (hKeyword _ (by decide))
    · exact absurd ‹_› (hKeyword _ (by decide))
    · rw [number?_eq (Decimal.isNumeral_numeral n), Decimal.wholeOfNumeral?_numeral h]

/-- A written literal has its value. -/
theorem value?_written {cell : Cell} (h : IsWritable cell) : value? (written cell) = some cell := by
  cases h with
  | @whole n hShort =>
      rw [written_whole]
      exact value?_numeral hShort
  | text s =>
      rw [written, value?_of_quoted? (quoted?_written s.toList), String.ofList_toList]
  | bool b => cases b <;> rfl
  | missing => rfl

theorem isLexeme_written {cell : Cell} (h : IsWritable cell) :
    Lexer.IsLexeme ⟨.literal, written cell⟩ := by
  cases h with
  | @whole n hShort =>
      rw [written_whole]
      exact .number (Decimal.isNumeral_numeral n)
  | text s => exact .quoted (.inr rfl) (isQuotedRest_escaped s.toList)
  | bool b => cases b <;> exact .keyword (by decide)
  | missing => exact .keyword (by decide)

end Constant

/-! ## Writing expressions -/

/-- The level of an operator in front of its operand. -/
def unaryLevel (symbol : String) : Level :=
  if symbol = negationSymbol then .negation else .sign

/-- The level of an operator of arithmetic. -/
def arithmeticLevel (symbol : String) : Level := if symbol ∈ sumSymbols then .sum else .product

/-- The level of a connective. -/
def connectiveLevel (symbol : String) : Level :=
  if symbol = disjunctionSymbol then .disjunction else .conjunction

/-- The tokens of an expression of a level `own` where a level is called for: between parentheses if
its own level is the looser one. -/
def enclosed (lvl own : Level) (ts : List Token) : List Token :=
  if own.rank < lvl.rank then .punctuation "(" :: (ts ++ [.punctuation ")"]) else ts

/-- How deep levels are entered for it, if they are entered to `depth` at its own level. -/
def depthAt (lvl own : Level) (depth : Nat) : Nat :=
  if own.rank < lvl.rank then depth + own.rank + 1 + (Level.atom.rank - lvl.rank)
  else depth + (own.rank - lvl.rank)

namespace Expr

/-- The level of the grammar that an expression is of. -/
def level : Expr → Level
  | .unary symbol _ => unaryLevel symbol
  | .arithmetic symbol _ _ => arithmeticLevel symbol
  | .comparison _ _ _ => .comparison
  | .connective symbol _ _ => connectiveLevel symbol
  | .literal _ | .column _ | .call _ _ | .unsupported _ => .atom

mutual

/-- The tokens of an expression. Operators that associate to the left take their left operand from
their own level and their right one from the next, and comparisons take both from the next; an
operator in front takes its operand from its own level, and arguments are of any level. -/
def tokens : Expr → List Token
  | .literal cell => [⟨.literal, Constant.written cell⟩]
  | .column name => [⟨.identifier, name⟩]
  | .unary symbol operand =>
      ⟨.operator, symbol⟩ :: enclosed (unaryLevel symbol) operand.level operand.tokens
  | .arithmetic symbol left right =>
      enclosed (arithmeticLevel symbol) left.level left.tokens ++
        ⟨.operator, symbol⟩ :: enclosed (arithmeticLevel symbol).tighter right.level right.tokens
  | .comparison symbol left right =>
      enclosed .sum left.level left.tokens ++
        ⟨.operator, symbol⟩ :: enclosed .sum right.level right.tokens
  | .connective symbol left right =>
      enclosed (connectiveLevel symbol) left.level left.tokens ++
        ⟨.operator, symbol⟩ :: enclosed (connectiveLevel symbol).tighter right.level right.tokens
  | .call function arguments =>
      ⟨.identifier, function⟩ :: .punctuation "(" ::
        ([Token.punctuation ","].intercalate (tokensOfAll arguments) ++ [.punctuation ")"])
  | .unsupported _ => []

/-- The tokens of some expressions. -/
def tokensOfAll : List Expr → List (List Token)
  | [] => []
  | e :: es => e.tokens :: tokensOfAll es

end

mutual

/-- How deep the parser enters levels for an expression, from its own level on. -/
def depth : Expr → Nat
  | .unary symbol operand => depthAt (unaryLevel symbol) operand.level operand.depth + 1
  | .arithmetic symbol left right =>
      max (depthAt (arithmeticLevel symbol) left.level left.depth)
        (depthAt (arithmeticLevel symbol).tighter right.level right.depth + 1)
  | .comparison _ left right =>
      max (depthAt .sum left.level left.depth) (depthAt .sum right.level right.depth) + 1
  | .connective symbol left right =>
      max (depthAt (connectiveLevel symbol) left.level left.depth)
        (depthAt (connectiveLevel symbol).tighter right.level right.depth + 1)
  | .call _ arguments => depthOfAll arguments + 1
  | .literal _ | .column _ | .unsupported _ => 1

/-- How deep the parser enters levels for some arguments, which it reads by two calls more. -/
def depthOfAll : List Expr → Nat
  | [] => 0
  | e :: es => max (depthAt .disjunction e.level e.depth + 2) (depthOfAll es)

end

/-- How deep the parser enters levels for a whole formula. -/
def nesting (e : Expr) : Nat := depthAt .disjunction e.level e.depth

/-- The text of an expression. -/
def text (e : Expr) : String := String.ofList (textOfTokens e.tokens)

theorem tokensOfAll_eq (es : List Expr) : tokensOfAll es = es.map tokens := by
  induction es with
  | nil => rfl
  | cons e es ih => rw [tokensOfAll, ih, List.map_cons]

theorem depthOfAll_eq (es : List Expr) :
    depthOfAll es = greatest (es.map fun e => e.nesting + 2) := by
  induction es with
  | nil => rfl
  | cons e es ih =>
      rw [depthOfAll, ih]
      rfl

/-- A name that can stand between square brackets. -/
structure IsBracketable (name : String) : Prop where
  nonempty : name ≠ ""
  bracket : ']' ∉ name.toList
  strip : Text.strip name.toList = name.toList

/-- The expressions that can be written. -/
inductive IsWritable : Expr → Prop
  | literal {cell : Cell} (hCell : Constant.IsWritable cell) : IsWritable (.literal cell)
  | column {name : String} (hName : IsBracketable name) : IsWritable (.column name)
  | unary {symbol : String} {operand : Expr}
      (hSymbol : symbol = signSymbol ∨ symbol = negationSymbol) (hOperand : IsWritable operand) :
      IsWritable (.unary symbol operand)
  | arithmetic {symbol : String} {left right : Expr}
      (hSymbol : symbol ∈ sumSymbols ++ productSymbols) (hLeft : IsWritable left)
      (hRight : IsWritable right) : IsWritable (.arithmetic symbol left right)
  | comparison {symbol : String} {left right : Expr} (hSymbol : symbol ∈ comparisonSymbols)
      (hLeft : IsWritable left) (hRight : IsWritable right) :
      IsWritable (.comparison symbol left right)
  | connective {symbol : String} {left right : Expr}
      (hSymbol : symbol = disjunctionSymbol ∨ symbol = conjunctionSymbol)
      (hLeft : IsWritable left) (hRight : IsWritable right) :
      IsWritable (.connective symbol left right)
  | call {function : String} {arguments : List Expr} (hName : IsBracketable function)
      (hUpper : functionName function = function) (hArguments : ∀ e ∈ arguments, IsWritable e) :
      IsWritable (.call function arguments)

end Expr

/-! ## Operators as tokens -/

theorem Parser.Level.chainSymbols_known (lvl : Level) :
    ∀ symbol ∈ lvl.chainSymbols, symbol ∈ Lexer.operatorSymbols := by
  cases lvl <;> decide

theorem Parser.Level.prefixSymbols_known (lvl : Level) :
    ∀ symbol ∈ lvl.prefixSymbols, symbol ∈ Lexer.operatorSymbols := by
  cases lvl <;> decide

/-- A symbol is in upper case already, so an operator keeps it; and it can be read back. -/
theorem written_operator {symbols : List String} {symbol : String}
    (hKnown : ∀ symbol ∈ symbols, symbol ∈ Lexer.operatorSymbols) (h : symbol ∈ symbols) :
    (Token.mk .operator symbol).symbol = symbol ∧
      (Token.mk .operator symbol).IsOperator symbols ∧
      Lexer.IsLexeme ⟨.operator, symbol⟩ := by
  have hUpper : ∀ symbol ∈ Lexer.operatorSymbols,
      (Token.mk .operator symbol).symbol = symbol := by
    decide +kernel
  have hKept := hUpper symbol (hKnown symbol h)
  exact ⟨hKept, ⟨rfl, by rwa [hKept]⟩, .operator (hKnown symbol h)⟩

/-- A name between square brackets can be read back. -/
theorem Expr.IsBracketable.isLexeme {name : String} (h : IsBracketable name) :
    Lexer.IsLexeme ⟨.identifier, name⟩ := by
  have hLexeme := Lexer.IsLexeme.name h.bracket h.strip
  rwa [String.ofList_toList] at hLexeme

/-! ## What is carried along -/

/-- The tokens are the expression at a level: the grammar derives it, the parser reads it at the
depth, and each token can be read back. -/
structure Writes (depth : Nat) (lvl : Level) (ts : List Token) (e : Expr) : Prop where
  derives : Derives lvl ts e
  isRead : IsRead depth lvl ts e
  lexemes : ∀ t ∈ ts, Lexer.IsLexeme t

namespace Writes

variable {depth depth' : Nat} {lvl own : Level} {ts xs ys : List Token} {e left right : Expr}

theorem tighter (hAtom : lvl ≠ .atom) (h : Writes depth lvl.tighter ts e) :
    Writes (depth + 1) lvl ts e where
  derives := .tighter h.derives
  isRead := read_tighter hAtom h.derives h.isRead
  lexemes := h.lexemes

/-- An expression stands at each looser level, one level of depth for each step. -/
theorem loosen (hRank : lvl.rank ≤ own.rank) (h : Writes depth own ts e) :
    Writes (depth + (own.rank - lvl.rank)) lvl ts e := by
  generalize hSteps : own.rank - lvl.rank = steps
  induction steps generalizing lvl with
  | zero =>
      have hSame : lvl = own := by
        have hRanks : lvl.rank = own.rank := by omega
        cases lvl <;> cases own <;> first | rfl | cases hRanks
      rw [hSame]
      exact h
  | succ steps ih =>
      have hAtom : lvl ≠ .atom := by
        rintro rfl
        have hLast : own.rank ≤ Level.atom.rank := by cases own <;> decide
        omega
      have hNext : lvl.tighter.rank = lvl.rank + 1 := by
        cases lvl <;> first | rfl | exact absurd rfl hAtom
      exact (ih (by omega) (by omega)).tighter hAtom

theorem parenthesized (h : Writes depth .disjunction ts e) :
    Writes (depth + 1) .atom (.punctuation "(" :: (ts ++ [.punctuation ")"])) e where
  derives := .parenthesized h.derives
  isRead := read_parenthesized h.isRead
  lexemes := List.forall_mem_cons.2 ⟨.punctuation (by decide), List.forall_mem_append.2
    ⟨h.lexemes, List.forall_mem_singleton.2 (.punctuation (by decide))⟩⟩

/-- An expression stands at any level, between parentheses if need be. -/
theorem enclosed (h : Writes depth own ts e) (lvl : Level) :
    Writes (depthAt lvl own depth) lvl (Formula.enclosed lvl own ts) e := by
  unfold depthAt Formula.enclosed
  by_cases hLooser : own.rank < lvl.rank
  · rw [if_pos hLooser, if_pos hLooser]
    have hWhole : Writes (depth + own.rank) .disjunction ts e :=
      @loosen depth .disjunction own ts e (Nat.zero_le own.rank) h
    have hLast : lvl.rank ≤ Level.atom.rank := by cases lvl <;> decide
    exact hWhole.parenthesized.loosen hLast
  · rw [if_neg hLooser, if_neg hLooser]
    exact h.loosen (Nat.not_lt.1 hLooser)

/-- An expression of any level is a whole formula, as an argument is. -/
theorem whole (h : Writes depth own ts e) :
    Writes (depthAt .disjunction own depth) .disjunction ts e :=
  h.enclosed .disjunction

theorem chained {symbol : String} (hSymbol : symbol ∈ lvl.chainSymbols)
    (hLeft : Writes depth lvl xs left) (hRight : Writes depth' lvl.tighter ys right) :
    Writes (max depth (depth' + 1)) lvl (xs ++ ⟨.operator, symbol⟩ :: ys)
      (lvl.combine symbol left right) := by
  obtain ⟨hKept, hOperator, hLexeme⟩ := written_operator lvl.chainSymbols_known hSymbol
  have hDerives := Derives.chained hOperator hLeft.derives hRight.derives
  have hRead := read_chained hOperator hLeft.isRead hRight.isRead
  rw [hKept] at hDerives hRead
  exact ⟨hDerives, hRead, List.forall_mem_append.2
    ⟨hLeft.lexemes, List.forall_mem_cons.2 ⟨hLexeme, hRight.lexemes⟩⟩⟩

theorem compared {symbol : String} (hSymbol : symbol ∈ comparisonSymbols)
    (hLeft : Writes depth .sum xs left) (hRight : Writes depth' .sum ys right) :
    Writes (max depth depth' + 1) .comparison (xs ++ ⟨.operator, symbol⟩ :: ys)
      (.comparison symbol left right) := by
  obtain ⟨hKept, hOperator, hLexeme⟩ := written_operator (by decide) hSymbol
  have hDerives := Derives.compared hOperator hLeft.derives hRight.derives
  have hRead := read_compared hOperator hLeft.isRead hRight.isRead
  rw [hKept] at hDerives hRead
  exact ⟨hDerives, hRead, List.forall_mem_append.2
    ⟨hLeft.lexemes, List.forall_mem_cons.2 ⟨hLexeme, hRight.lexemes⟩⟩⟩

theorem prefixed {symbol : String} (hSymbol : symbol ∈ lvl.prefixSymbols)
    (h : Writes depth lvl ts e) :
    Writes (depth + 1) lvl (⟨.operator, symbol⟩ :: ts) (.unary symbol e) := by
  obtain ⟨hKept, hOperator, hLexeme⟩ := written_operator lvl.prefixSymbols_known hSymbol
  have hDerives := Derives.prefixed hOperator h.derives
  have hRead := read_prefixed hOperator h.isRead
  rw [hKept] at hDerives hRead
  exact ⟨hDerives, hRead, List.forall_mem_cons.2 ⟨hLexeme, h.lexemes⟩⟩

theorem literal {cell : Cell} (h : Constant.IsWritable cell) :
    Writes 1 .atom [⟨.literal, Constant.written cell⟩] (.literal cell) where
  derives := .literal (Constant.value?_written h)
  isRead := read_literal (Constant.value?_written h)
  lexemes := List.forall_mem_singleton.2 (Constant.isLexeme_written h)

theorem column {name : String} (h : Expr.IsBracketable name) :
    Writes 1 .atom [⟨.identifier, name⟩] (.column name) where
  derives := .column
  isRead := read_column name
  lexemes := List.forall_mem_singleton.2 h.isLexeme

/-- A call is written if each of its arguments is, as a whole formula. -/
theorem call {function : String} {arguments : List Expr} (hName : Expr.IsBracketable function)
    (hUpper : functionName function = function)
    (h : ∀ e ∈ arguments, Writes e.nesting .disjunction e.tokens e) :
    Writes (greatest (arguments.map fun e => e.nesting + 2) + 1) .atom
      (⟨.identifier, function⟩ :: .punctuation "(" ::
        ([Token.punctuation ","].intercalate (arguments.map Expr.tokens) ++ [.punctuation ")"]))
      (.call function arguments) := by
  let parts := arguments.map fun e => (e.tokens, e)
  have hParts : ∀ part ∈ parts, Writes part.2.nesting .disjunction part.1 part.2 := by
    intro part hPart
    obtain ⟨e, hMember, rfl⟩ := List.mem_map.1 hPart
    exact h e hMember
  have hTokens : parts.map Prod.fst = arguments.map Expr.tokens := by
    rw [List.map_map]
    rfl
  have hExprs : parts.map Prod.snd = arguments := by
    rw [List.map_map]
    exact List.map_id arguments
  have hNeed : parts.map (fun part => part.2.nesting + 2) =
      arguments.map fun e => e.nesting + 2 := by
    rw [List.map_map]
    rfl
  have hDerives := @Derives.call function parts fun part hPart => (hParts part hPart).derives
  have hRead := @read_call (fun part => part.2.nesting) function parts
    (fun part hPart => (hParts part hPart).derives) (fun part hPart => (hParts part hPart).isRead)
  rw [hTokens, hExprs, hUpper] at hDerives
  rw [hTokens, hExprs, hUpper, hNeed] at hRead
  have hArguments : ∀ t ∈ [Token.punctuation ","].intercalate (arguments.map Expr.tokens),
      Lexer.IsLexeme t := by
    apply forall_mem_intercalate
    · exact List.forall_mem_singleton.2 (.punctuation (by decide))
    · intro ts hTokens
      obtain ⟨e, hMember, rfl⟩ := List.mem_map.1 hTokens
      exact (h e hMember).lexemes
  refine ⟨hDerives, hRead, ?_⟩
  refine List.forall_mem_cons.2 ⟨hName.isLexeme, List.forall_mem_cons.2
    ⟨.punctuation (by decide), List.forall_mem_append.2 ⟨hArguments, ?_⟩⟩⟩
  exact List.forall_mem_singleton.2 (.punctuation (by decide))

end Writes

/-! ## The levels of the operators -/

theorem mem_prefixSymbols_unaryLevel {symbol : String}
    (h : symbol = signSymbol ∨ symbol = negationSymbol) :
    symbol ∈ (unaryLevel symbol).prefixSymbols := by
  rcases h with rfl | rfl <;> decide

theorem mem_chainSymbols_arithmeticLevel {symbol : String}
    (h : symbol ∈ sumSymbols ++ productSymbols) :
    symbol ∈ (arithmeticLevel symbol).chainSymbols := by
  unfold arithmeticLevel
  split
  · assumption
  · next hSum => exact (List.mem_append.1 h).resolve_left hSum

theorem combine_arithmeticLevel (symbol : String) :
    (arithmeticLevel symbol).combine = .arithmetic := by
  unfold arithmeticLevel
  split <;> rfl

theorem mem_chainSymbols_connectiveLevel {symbol : String}
    (h : symbol = disjunctionSymbol ∨ symbol = conjunctionSymbol) :
    symbol ∈ (connectiveLevel symbol).chainSymbols := by
  rcases h with rfl | rfl <;> decide

theorem combine_connectiveLevel (symbol : String) :
    (connectiveLevel symbol).combine = .connective := by
  unfold connectiveLevel
  split <;> rfl

/-! ## Every expression -/

/-- What is written for an expression is the expression at its level, and is read at its depth. -/
theorem writes {e : Expr} (h : e.IsWritable) : Writes e.depth e.level e.tokens e := by
  induction h with
  | literal hCell => exact .literal hCell
  | column hName => exact .column hName
  | @unary symbol operand hSymbol _ ih =>
      exact (ih.enclosed _).prefixed (mem_prefixSymbols_unaryLevel hSymbol)
  | @arithmetic symbol left right hSymbol _ _ ihLeft ihRight =>
      have hWrites := (ihLeft.enclosed _).chained (mem_chainSymbols_arithmeticLevel hSymbol)
        (ihRight.enclosed _)
      rwa [combine_arithmeticLevel] at hWrites
  | comparison hSymbol _ _ ihLeft ihRight =>
      exact (ihLeft.enclosed _).compared hSymbol (ihRight.enclosed _)
  | @connective symbol left right hSymbol _ _ ihLeft ihRight =>
      have hWrites := (ihLeft.enclosed _).chained (mem_chainSymbols_connectiveLevel hSymbol)
        (ihRight.enclosed _)
      rwa [combine_connectiveLevel] at hWrites
  | @call function arguments hName hUpper _ ih =>
      have hWrites := Writes.call hName hUpper fun e hMember => (ih e hMember).whole
      rwa [← Expr.tokensOfAll_eq, ← Expr.depthOfAll_eq] at hWrites

/-- The text of a whole formula is read by as many calls as levels are entered for it. -/
theorem Writes.read_textOfTokens {depth : Nat} {ts : List Token} {e : Expr}
    (h : Writes depth .disjunction ts e) (calls : Nat) :
    read calls (String.ofList (textOfTokens ts)) =
      if depth ≤ calls then .ok e else .error (.parse .tooDeep) := by
  have hTokens : tokenize (String.ofList (textOfTokens ts)) = .ok (ts ++ [.endOfFormula]) :=
    tokenize_textOfTokens h.lexemes
  have hParse : parse calls (ts ++ [.endOfFormula]) = within depth calls (.ok e) :=
    parse_of_isRead h.derives h.isRead
  unfold read
  rw [hTokens]
  dsimp only
  rw [hParse]
  by_cases hDeep : depth ≤ calls
  · rw [within_of_le hDeep, if_pos hDeep]
  · rw [within_of_lt (Nat.not_le.1 hDeep), if_neg hDeep]

/-- **Reading gives back what was written.** The text of an expression is read as the expression,
unless that takes more calls than there may be. -/
theorem read_text {e : Expr} (h : e.IsWritable) (calls : Nat) :
    read calls e.text = if e.nesting ≤ calls then .ok e else .error (.parse .tooDeep) :=
  (writes h).whole.read_textOfTokens calls

/-- An expression with names that look like other tokens, a text with all that is escaped, and
operands of looser levels than their places. -/
def mixedExpr : Expr :=
  .connective "AND"
    (.unary "NOT" (.comparison ">=" (.column "AND")
      (.arithmetic "-" (.literal (.int 1))
        (.arithmetic "-" (.literal (.int 2)) (.unary "-" (.column "1+2"))))))
    (.call "LEN" [.literal (.text "a\"\\\n"),
      .comparison "=" (.comparison "<" (.literal .missing) (.column "x y"))
        (.literal (.bool true))])

theorem isWritable_mixedExpr : mixedExpr.IsWritable := by
  have hLeft : Expr.IsWritable (.unary "NOT" (.comparison ">=" (.column "AND")
      (.arithmetic "-" (.literal (.int 1))
        (.arithmetic "-" (.literal (.int 2)) (.unary "-" (.column "1+2")))))) := by
    have hDifference : Expr.IsWritable
        (.arithmetic "-" (.literal (.int 2)) (.unary "-" (.column "1+2"))) :=
      .arithmetic (by decide) (.literal (@Constant.IsWritable.whole 2 (by decide)))
        (.unary (.inl rfl) (.column ⟨by decide, by decide, by decide⟩))
    exact .unary (.inr rfl) (.comparison (by decide) (.column ⟨by decide, by decide, by decide⟩)
      (.arithmetic (by decide) (.literal (@Constant.IsWritable.whole 1 (by decide))) hDifference))
  have hComparison : Expr.IsWritable (.comparison "=" (.comparison "<" (.literal .missing)
      (.column "x y")) (.literal (.bool true))) :=
    .comparison (by decide) (.comparison (by decide) (.literal .missing)
      (.column ⟨by decide, by decide, by decide⟩)) (.literal (.bool true))
  have hArguments : ∀ e ∈ [Expr.literal (.text "a\"\\\n"), .comparison "="
      (.comparison "<" (.literal .missing) (.column "x y")) (.literal (.bool true))],
      e.IsWritable :=
    List.forall_mem_cons.2 ⟨.literal (.text _), List.forall_mem_singleton.2 hComparison⟩
  exact .connective (.inr rfl) hLeft
    (.call ⟨by decide, by decide, by decide⟩ (by decide +kernel) hArguments)

/-- It is written with the parentheses that its operands need, and read back. -/
theorem read_text_mixedExpr :
    mixedExpr.text = "NOT [AND] >= 1 - ( 2 - - [1+2] ) AND [LEN] ( \"a\\\"\\\\\n\" , " ++
        "( NULL < [x y] ) = TRUE )" ∧
      mixedExpr.nesting ≤ callLimit ∧ read callLimit mixedExpr.text = .ok mixedExpr := by
  have hShallow : mixedExpr.nesting ≤ callLimit := by decide
  refine ⟨by decide +kernel, hShallow, ?_⟩
  rw [read_text isWritable_mixedExpr callLimit, if_pos hShallow]

end TableFlow.Formula
