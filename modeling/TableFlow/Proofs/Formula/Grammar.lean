import TableFlow.Formula.Parser

/-!
# The grammar of the formula language

`Derives lvl ts e` says that the tokens `ts`, all of them, are the expression `e` at the level
`lvl`. It is a grammar and no parser: a rule says which tokens stand beside each other, and nothing
about the order in which they are looked at.

The levels are those of the parser. What a level has operators for is in three tables:
`Level.chainSymbols` for the operators that associate to the left, `comparisonSymbols` for the ones
that do not associate, and `Level.prefixSymbols` for the ones in front of their operand.

## Main results

* `Derives.exists_first`: an expression starts with a name, a literal, an opening parenthesis, or an
  operator that may stand in front at its level.
-/

namespace TableFlow.Formula

/-- The symbol of an operator, which is known in any case. -/
def Token.symbol (t : Token) : String := String.ofList (Text.upper t.value.toList)

/-- Tells that a token is an operator with one of the symbols. -/
def Token.IsOperator (t : Token) (symbols : List String) : Prop :=
  t.kind = .operator ∧ t.symbol ∈ symbols

/-- A punctuation mark. -/
def Token.punctuation (mark : String) : Token := ⟨.punctuation, mark⟩

namespace Parser

/-- The next tighter level; nothing is tighter than an atom. -/
def Level.tighter : Level → Level
  | .disjunction => .conjunction
  | .conjunction => .negation
  | .negation => .comparison
  | .comparison => .sum
  | .sum => .product
  | .product => .sign
  | .sign => .atom
  | .atom => .atom

/-- The operators of a level that associate to the left. -/
def Level.chainSymbols : Level → List String
  | .disjunction => [disjunctionSymbol]
  | .conjunction => [conjunctionSymbol]
  | .sum => sumSymbols
  | .product => productSymbols
  | .negation | .comparison | .sign | .atom => []

/-- The operators of a level that stand between two operands. -/
def Level.infixSymbols : Level → List String
  | .comparison => comparisonSymbols
  | lvl => lvl.chainSymbols

/-- The expression of an operator that associates to the left. -/
def Level.combine : Level → String → Expr → Expr → Expr
  | .disjunction | .conjunction => .connective
  | _ => .arithmetic

/-- The operators of a level that stand in front of their operand. -/
def Level.prefixSymbols : Level → List String
  | .negation => [negationSymbol]
  | .sign => [signSymbol]
  | _ => []

/-- The tokens `ts` are the expression `e` at a level of the grammar. -/
inductive Derives : Level → List Token → Expr → Prop
  /-- An expression of a tighter level. -/
  | tighter {lvl : Level} {ts : List Token} {e : Expr} (inner : Derives lvl.tighter ts e) :
      Derives lvl ts e
  /-- The left operand is of the level itself, so that the operators associate to the left. -/
  | chained {lvl : Level} {xs ys : List Token} {t : Token} {left right : Expr}
      (hOperator : t.IsOperator lvl.chainSymbols) (first : Derives lvl xs left)
      (second : Derives lvl.tighter ys right) :
      Derives lvl (xs ++ t :: ys) (lvl.combine t.symbol left right)
  /-- Both operands of a comparison are of a tighter level, so that comparisons do not
  associate. -/
  | compared {xs ys : List Token} {t : Token} {left right : Expr}
      (hOperator : t.IsOperator comparisonSymbols) (first : Derives .sum xs left)
      (second : Derives .sum ys right) :
      Derives .comparison (xs ++ t :: ys) (.comparison t.symbol left right)
  | prefixed {lvl : Level} {ts : List Token} {t : Token} {e : Expr}
      (hOperator : t.IsOperator lvl.prefixSymbols) (operand : Derives lvl ts e) :
      Derives lvl (t :: ts) (.unary t.symbol e)
  | parenthesized {ts : List Token} {e : Expr} (inner : Derives .disjunction ts e) :
      Derives .atom (.punctuation "(" :: (ts ++ [.punctuation ")"])) e
  | literal {text : String} {cell : Cell} (hValue : Constant.value? text = some cell) :
      Derives .atom [⟨.literal, text⟩] (.literal cell)
  | column {name : String} : Derives .atom [⟨.identifier, name⟩] (.column name)
  /-- The arguments are full expressions, a comma between each two of them. -/
  | call {name : String} {parts : List (List Token × Expr)}
      (args : ∀ part ∈ parts, Derives .disjunction part.1 part.2) :
      Derives .atom
        (⟨.identifier, name⟩ :: .punctuation "(" ::
          ([Token.punctuation ","].intercalate (parts.map Prod.fst) ++ [.punctuation ")"]))
        (.call (functionName name) (parts.map Prod.snd))

/-! ## How tight a level is -/

/-- The place of a level, the loosest one first. -/
def Level.rank : Level → Nat
  | .disjunction => 0
  | .conjunction => 1
  | .negation => 2
  | .comparison => 3
  | .sum => 4
  | .product => 5
  | .sign => 6
  | .atom => 7

theorem Level.rank_lt_tighter {lvl : Level} (h : lvl ≠ .atom) : lvl.rank < lvl.tighter.rank := by
  cases lvl <;> first | decide | exact absurd rfl h

theorem Level.rank_le_tighter (lvl : Level) : lvl.rank ≤ lvl.tighter.rank := by
  cases lvl <;> decide

/-- An operator between two operands is not one of a tighter level. -/
theorem Level.infixSymbols_apart {loose tight : Level} (h : loose.rank < tight.rank) :
    ∀ s ∈ loose.infixSymbols, s ∉ tight.infixSymbols := by
  cases loose <;> cases tight <;> revert h <;> decide

/-- An operator in front is not one of a tighter level. -/
theorem Level.prefixSymbols_apart {loose tight : Level} (h : loose.rank < tight.rank) :
    ∀ s ∈ loose.prefixSymbols, s ∉ tight.prefixSymbols := by
  cases loose <;> cases tight <;> revert h <;> decide

/-! ## Where an expression starts -/

/-- An expression of the level may start with the token. -/
inductive Starts (lvl : Level) : Token → Prop
  | name (name : String) : Starts lvl ⟨.identifier, name⟩
  | literal (text : String) : Starts lvl ⟨.literal, text⟩
  | parenthesis : Starts lvl (.punctuation "(")
  | operator {t : Token} {tight : Level} (hTight : lvl.rank ≤ tight.rank)
      (hOperator : t.IsOperator tight.prefixSymbols) : Starts lvl t

theorem Starts.of_tighter {lvl : Level} {t : Token} (h : Starts lvl.tighter t) :
    Starts lvl t := by
  cases h with
  | name name => exact .name name
  | literal text => exact .literal text
  | parenthesis => exact .parenthesis
  | operator hTight hOperator =>
      exact .operator (Nat.le_trans lvl.rank_le_tighter hTight) hOperator

/-- Every expression has a first token, and it is one that the level may start with. -/
theorem Derives.exists_first {lvl : Level} {ts : List Token} {e : Expr} (h : Derives lvl ts e) :
    ∃ t rest, ts = t :: rest ∧ Starts lvl t := by
  induction h with
  | tighter _ ih =>
      obtain ⟨t, rest, rfl, hStarts⟩ := ih
      exact ⟨t, rest, rfl, hStarts.of_tighter⟩
  | chained _ _ _ ih =>
      obtain ⟨t, rest, rfl, hStarts⟩ := ih
      exact ⟨t, _, rfl, hStarts⟩
  | compared _ _ _ ih =>
      obtain ⟨t, rest, rfl, hStarts⟩ := ih
      exact ⟨t, _, rfl, @Starts.of_tighter .comparison t hStarts⟩
  | prefixed hOperator => exact ⟨_, _, rfl, .operator (Nat.le_refl _) hOperator⟩
  | parenthesized => exact ⟨_, _, rfl, .parenthesis⟩
  | literal => exact ⟨_, _, rfl, .literal _⟩
  | column => exact ⟨_, _, rfl, .name _⟩
  | call => exact ⟨_, _, rfl, .name _⟩

end Parser

end TableFlow.Formula
