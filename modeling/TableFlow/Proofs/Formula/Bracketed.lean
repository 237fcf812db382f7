import TableFlow.Proofs.Formula.Levels
import TableFlow.Proofs.Formula.Lexemes
import TableFlow.Proofs.Formula.LookAhead

/-!
# Names between brackets

A formula names a column by a word, or by its name between square brackets. Whatever stands between
the brackets is one name: quotation marks, operators, keywords and line ends are characters like all
others. The value of the formula is the cell of one column, and the functions on columns take that
column as well.

White space at the ends of the name is left out, though. So brackets around a name that starts or
ends with white space do not stand for the column of that name, but for another one, which a row may
have or not.

## Main results

* `read_bracketed` and `read_applied`: brackets around a name are read as one column.
* `names_stripped`: it is the column of the name without the white space at its ends.
* `exists_misread`: a column that the brackets around its name do not stand for.
-/

namespace TableFlow.Formula

/-- A name between square brackets. -/
def bracketed (name : String) : String := "[" ++ name ++ "]"

/-- A function of a name between square brackets. -/
def applied (function name : String) : String := function ++ "(" ++ bracketed name ++ ")"

/-- A name without the white space at its ends. -/
def stripped (name : String) : String := String.ofList (Text.strip name.toList)

/-- The functions that take a column. -/
def columnFunctions : List String := ["SUM", "AVG", "LEN"]

/-- The calls that read a function of a column: eight for the levels of the grammar, two for the
helpers that read arguments, and eight for the levels again. -/
def callsForFunction : Nat := 18

/-! ## Tokens -/

namespace Lexer

theorem tokensFrom_cons {fuel position : Nat} {cs rest : List Char} {token : Token}
    {tokens : List Token} (hSome : cs ≠ []) (h : lexeme? cs = some (some token, rest))
    (hRest : ∀ next, tokensFrom fuel next rest = .ok tokens) :
    tokensFrom (fuel + 1) position cs = .ok (token :: tokens) := by
  obtain ⟨next, hStep⟩ := @tokensFrom_of_lexeme? fuel position _ _ _ hSome h
  rw [hStep, hRest next]
  rfl

theorem lexeme?_function {function : String} (h : function ∈ columnFunctions) (rest : List Char) :
    lexeme? (function.toList ++ '(' :: rest) =
      some (some ⟨.identifier, function⟩, '(' :: rest) := by
  have hFunctions : ∀ function ∈ columnFunctions, IsWord function ∧
      wordToken function = ⟨.identifier, function⟩ := by decide +kernel
  obtain ⟨hWord, hToken⟩ := hFunctions function h
  have hRest : EndsWord ('(' :: rest) := by
    rintro c ⟨⟩
    decide
  rw [lexeme?_word hWord hRest, hToken]

theorem lexeme?_opening (rest : List Char) :
    lexeme? ('(' :: rest) = some (some (.punctuation "("), rest) := by
  cases rest <;> rfl

end Lexer

section

variable {name : String} (hSome : name ≠ "") (hBracket : ']' ∉ name.toList)

include hSome hBracket

/-- Brackets with a name between them are one token, whatever stands behind them. -/
theorem lexeme?_bracketed_append (rest : List Char) :
    Lexer.lexeme? ((bracketed name).toList ++ rest) =
      some (some ⟨.identifier, stripped name⟩, rest) := by
  have hChars : name.toList ≠ [] := fun hNil => hSome (String.toList_eq_nil_iff.1 hNil)
  have hText : (bracketed name).toList ++ rest = '[' :: (name.toList ++ ']' :: rest) := by
    simp [bracketed]
  rw [hText]
  exact Lexer.lexeme?_bracketed hBracket hChars rest

theorem tokenize_bracketed :
    tokenize (bracketed name) = .ok [⟨.identifier, stripped name⟩, .endOfFormula] := by
  have hLexeme := lexeme?_bracketed_append hSome hBracket []
  rw [List.append_nil] at hLexeme
  have hLength : (bracketed name).length = (name.length + 1) + 1 := by
    rw [← String.length_toList]
    simp [bracketed, String.length_toList]
  unfold tokenize
  rw [hLength]
  exact Lexer.tokensFrom_cons (by simp [bracketed]) hLexeme fun next => rfl

theorem tokenize_applied {function : String} (hFunction : function ∈ columnFunctions) :
    tokenize (applied function name) = .ok [⟨.identifier, function⟩, .punctuation "(",
      ⟨.identifier, stripped name⟩, .punctuation ")", .endOfFormula] := by
  have hText : (applied function name).toList =
      function.toList ++ '(' :: ((bracketed name).toList ++ [')']) := by
    simp [applied]
  have hLength : (applied function name).length =
      (function.length + name.length) + 1 + 1 + 1 + 1 := by
    rw [← String.length_toList, hText]
    simp [bracketed, String.length_toList]
    omega
  unfold tokenize
  rw [hLength, hText]
  refine Lexer.tokensFrom_cons (by simp) (Lexer.lexeme?_function hFunction _) fun _ => ?_
  refine Lexer.tokensFrom_cons (by simp) (Lexer.lexeme?_opening _) fun _ => ?_
  refine Lexer.tokensFrom_cons (by simp) (lexeme?_bracketed_append hSome hBracket _) fun _ => ?_
  exact Lexer.tokensFrom_cons (by simp) rfl fun _ => by cases function.length + name.length <;> rfl

/-- Brackets around a name are read as one column. -/
theorem read_bracketed {calls : Nat} (hCalls : callsForFunction ≤ calls) :
    read calls (bracketed name) = .ok (.column (stripped name)) := by
  have hParse : parse callsForFunction [⟨.identifier, stripped name⟩, .endOfFormula] =
      .ok (.column (stripped name)) := rfl
  unfold read
  rw [tokenize_bracketed hSome hBracket]
  dsimp only
  rw [(kept_parse hCalls _).eq_of_ne (by simp [hParse]), hParse]

/-- A function of a name between brackets is read as a call with one column. -/
theorem read_applied {calls : Nat} (hCalls : callsForFunction ≤ calls) {function : String}
    (hFunction : function ∈ columnFunctions) :
    read calls (applied function name) = .ok (.call function [.column (stripped name)]) := by
  have hUpper : ∀ function ∈ columnFunctions, Parser.functionName function = function := by
    decide +kernel
  have hParse : parse callsForFunction [⟨.identifier, function⟩, .punctuation "(",
      ⟨.identifier, stripped name⟩, .punctuation ")", .endOfFormula] =
        .ok (.call (Parser.functionName function) [.column (stripped name)]) := rfl
  unfold read
  rw [tokenize_applied hSome hBracket hFunction]
  dsimp only
  rw [(kept_parse hCalls _).eq_of_ne (by simp [hParse]), hParse, hUpper function hFunction]

end

/-! ## Columns -/

/-- The value of a text as a formula at the row of an index. -/
def HasValueAt (calls : Nat) (text : String) (declared : List String) (rows : List Row)
    (index : Nat) (value : Except EvalError Cell) : Prop :=
  ∃ expr, read calls text = .ok expr ∧
    (evaluateRows calls expr rows declared)[index]? = some value

/-- Brackets around a name stand for a column: their value at each row that has the column is its
cell, and the functions on columns take the cells of that column up to the row, or the one at it. -/
structure StandsFor (calls : Nat) (name column : String) : Prop where
  cell : ∀ {declared rows index row cell}, rows[index]? = some row → row.get? column = some cell →
    HasValueAt calls (bracketed name) declared rows index (.ok cell)
  sum : ∀ {declared rows index}, index < rows.length →
    HasValueAt calls (applied "SUM" name) declared rows index (do
      let running ← lift (Running.totalAt rows index column)
      .ok (.float running.total))
  mean : ∀ {declared rows index}, index < rows.length →
    HasValueAt calls (applied "AVG" name) declared rows index (do
      let running ← lift (Running.totalAt rows index column)
      .ok running.mean)
  length : ∀ {declared rows index row}, rows[index]? = some row →
    HasValueAt calls (applied "LEN" name) declared rows index (do
      let text ← lift (row.get column).toText
      .ok (.int text.length))

/-- A text has one value at a row. -/
theorem HasValueAt.unique {calls : Nat} {text : String} {declared : List String} {rows : List Row}
    {index : Nat} {value value' : Except EvalError Cell}
    (h : HasValueAt calls text declared rows index value)
    (h' : HasValueAt calls text declared rows index value') : value = value' := by
  obtain ⟨expr, hRead, hValue⟩ := h
  obtain ⟨expr', hRead', hValue'⟩ := h'
  cases hRead.symm.trans hRead'
  exact Option.some.inj (hValue.symm.trans hValue')

/-- The value of a text is that of the expression it is read as, at the row itself. -/
theorem hasValueAt_of_read {calls : Nat} (hCalls : callsForFunction ≤ calls) {text : String}
    {expr : Expr} (hRead : read calls text = .ok expr) (declared : List String) {rows : List Row}
    {index : Nat} {row : Row} (hRow : rows[index]? = some row) :
    HasValueAt calls text declared rows index
      (let scope := Scope.at declared (Running.ofColumn rows) index row
      Eval.step scope (fun between => eval scope (calls - 1 - between)) expr) := by
  obtain ⟨fewer, rfl⟩ := Nat.exists_eq_add_of_le' hCalls
  refine ⟨expr, hRead, ?_⟩
  rw [getElem?_evaluateRows, hRow]
  exact congrArg some (congrFun (eval_succ _ _) expr)

section

variable {calls : Nat} (hCalls : callsForFunction ≤ calls) {name : String} (hSome : name ≠ "")
  (hBracket : ']' ∉ name.toList)

include hCalls hSome hBracket

theorem standsFor_stripped : StandsFor calls name (stripped name) where
  cell := by
    intro declared rows index row cell hRow hCell
    have hValue := hasValueAt_of_read hCalls (read_bracketed hSome hBracket hCalls) declared hRow
    have hColumn : Eval.column (Scope.at declared (Running.ofColumn rows) index row)
        (stripped name) = .ok cell := by
      simp only [Eval.column, Scope.at, hCell]
    rw [← hColumn]
    exact hValue
  sum := by
    intro declared rows index hIndex
    have hRead := read_applied hSome hBracket hCalls (show "SUM" ∈ columnFunctions by decide)
    exact hasValueAt_of_read hCalls hRead declared (List.getElem?_eq_getElem hIndex)
  mean := by
    intro declared rows index hIndex
    have hRead := read_applied hSome hBracket hCalls (show "AVG" ∈ columnFunctions by decide)
    exact hasValueAt_of_read hCalls hRead declared (List.getElem?_eq_getElem hIndex)
  length := by
    intro declared rows index row hRow
    have hRead := read_applied hSome hBracket hCalls (show "LEN" ∈ columnFunctions by decide)
    exact hasValueAt_of_read hCalls hRead declared hRow

/-- Where there is no column of the name that is read, there is no value. -/
theorem hasValueAt_unknown {declared : List String} {rows : List Row} {index : Nat} {row : Row}
    (hRow : rows[index]? = some row) (hNone : row.get? (stripped name) = none)
    (hDeclared : stripped name ∉ declared) :
    HasValueAt calls (bracketed name) declared rows index
      (.error (.refused ("Unknown column: " ++ stripped name))) := by
  have hValue := hasValueAt_of_read hCalls (read_bracketed hSome hBracket hCalls) declared hRow
  have hColumn : Eval.column (Scope.at declared (Running.ofColumn rows) index row)
      (stripped name) = .error (.refused ("Unknown column: " ++ stripped name)) := by
    simp only [Eval.column, Scope.at, hNone, hDeclared, if_false]
  rw [← hColumn]
  exact hValue

/-- **Brackets around a name stand for the name without white space at its ends.** Whatever else the
name holds, but for a closing bracket, it is one token, and the formula reads one column. It is the
column of the name itself if and only if the name has no white space at its ends. -/
theorem names_stripped :
    tokenize (bracketed name) = .ok [⟨.identifier, stripped name⟩, .endOfFormula] ∧
      read calls (bracketed name) = .ok (.column (stripped name)) ∧
        StandsFor calls name (stripped name) ∧
        (StandsFor calls name name ↔ stripped name = name) := by
  have hStands := standsFor_stripped hCalls hSome hBracket
  refine ⟨tokenize_bracketed hSome hBracket, read_bracketed hSome hBracket hCalls, hStands, ?_, ?_⟩
  · intro hSelf
    by_contra hStripped
    have hCell : HasValueAt calls (bracketed name) [] [Row.empty.set name (.int 1)] 0
        (.ok (.int 1)) :=
      hSelf.cell rfl (Row.get?_set_self _ _ _)
    have hUnknown : HasValueAt calls (bracketed name) [] [Row.empty.set name (.int 1)] 0
        (.error (.refused ("Unknown column: " ++ stripped name))) :=
      hasValueAt_unknown hCalls hSome hBracket rfl (Row.get?_set_of_ne Row.empty (.int 1) hStripped)
        List.not_mem_nil
    cases hCell.unique hUnknown
  · intro hSame
    rwa [hSame] at hStands

end

/-- A name with all kinds of characters that have a meaning outside of brackets. -/
def hardName : String := "NOT [\"x\",\n 'SUM(1)\" + 2) and"

theorem names_stripped_hardName :
    hardName ≠ "" ∧ ']' ∉ hardName.toList ∧ StandsFor callLimit hardName hardName ∧
      ¬ StandsFor callLimit (hardName ++ "\t") (hardName ++ "\t") := by
  have hCalls : callsForFunction ≤ callLimit := by decide
  have hSome : hardName ≠ "" := by decide
  have hBracket : ']' ∉ hardName.toList := by decide
  obtain ⟨-, -, -, hStands⟩ := names_stripped hCalls hSome hBracket
  obtain ⟨-, -, -, hStandsNot⟩ :=
    @names_stripped _ hCalls (hardName ++ "\t") (by decide) (by decide)
  exact ⟨hSome, hBracket, hStands.2 (by decide), mt hStandsNot.1 (by decide)⟩

/-- Of two columns whose names differ in a space, the brackets around one stand for the other. And
where there is no other one, they stand for a column that is unknown. -/
theorem exists_misread :
    HasValueAt callLimit (bracketed " a") ["a", " a"]
        [Row.ofEntries [("a", .int 1), (" a", .int 2)]] 0 (.ok (.int 1)) ∧
      HasValueAt callLimit (bracketed " a") [" a"] [Row.ofEntries [(" a", .int 2)]] 0
        (.error (.refused "Unknown column: a")) ∧
      ¬ ∀ (name : String) (declared : List String) (rows : List Row) (index : Nat) (row : Row)
        (cell : Cell), name ≠ "" → ']' ∉ name.toList → rows[index]? = some row →
          row.get? name = some cell →
            HasValueAt callLimit (bracketed name) declared rows index (.ok cell) := by
  have hCalls : callsForFunction ≤ callLimit := by decide
  have hOther : HasValueAt callLimit (bracketed " a") ["a", " a"]
      [Row.ofEntries [("a", .int 1), (" a", .int 2)]] 0 (.ok (.int 1)) :=
    (@standsFor_stripped _ hCalls " a" (by decide) (by decide)).cell rfl rfl
  have hUnknown : HasValueAt callLimit (bracketed " a") [" a"] [Row.ofEntries [(" a", .int 2)]] 0
      (.error (.refused "Unknown column: a")) :=
    @hasValueAt_unknown _ hCalls " a" (by decide) (by decide) _ _ _ _ rfl (by decide) (by decide)
  refine ⟨hOther, hUnknown, fun h => ?_⟩
  have hCell := h " a" [" a"] [Row.ofEntries [(" a", .int 2)]] 0 _ (.int 2) (by decide) (by decide)
    rfl rfl
  cases hCell.unique hUnknown

end TableFlow.Formula
