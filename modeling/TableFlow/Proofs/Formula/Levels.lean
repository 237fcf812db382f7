import TableFlow.Formula.Eval
import TableFlow.Formula.Parser

/-!
# More calls keep what is finished

Reading and evaluating stop with an error of their own where there are too few calls. Every other
outcome is final: by more calls, the same value or the same error comes out. Conditions are the one
place where errors are made good, and they let this error through.

The proofs go along one level of reading or evaluating. Each way to combine results hands on the
relation `Kept` from the results of the levels below.

## Main results

* `Eval.kept_step`: the outermost level of an evaluation hands the relation on.
* `Parser.kept_level`: so does each level of the grammar.
* `kept_eval` and `kept_read`: more calls keep what is finished.
-/

namespace TableFlow.Formula

/-- The second result is the first one, unless that one was stopped by the error. -/
def Kept {ε α : Type} (stopped : ε) (result deeper : Except ε α) : Prop :=
  result = .error stopped ∨ deeper = result

section

variable {ε α β : Type} {stopped : ε} {result deeper : Except ε α}

theorem Kept.refl (result : Except ε α) : Kept stopped result result := .inr rfl

theorem Kept.eq_of_ne (h : Kept stopped result deeper) (hDepth : result ≠ .error stopped) :
    deeper = result :=
  h.resolve_left hDepth

theorem Kept.trans {deepest : Except ε α} (h : Kept stopped result deeper)
    (h' : Kept stopped deeper deepest) : Kept stopped result deepest := by
  rcases h with hStopped | rfl
  · exact .inl hStopped
  · exact h'

theorem Kept.bind {next deeperNext : α → Except ε β} (h : Kept stopped result deeper)
    (hNext : ∀ a, Kept stopped (next a) (deeperNext a)) :
    Kept stopped (result >>= next) (deeper >>= deeperNext) := by
  rcases h with rfl | rfl
  · exact .inl rfl
  · cases deeper with
    | error err => exact .refl _
    | ok a => exact hNext a

end

namespace Eval

variable {scope : Scope} {f g : Evaluate}
  (h : ∀ between e, Kept EvalError.tooDeep (f between e) (g between e))

include h

theorem kept_laxArgument (between : Nat) (e : Expr) :
    Kept .tooDeep (laxArgument scope (f between) e) (laxArgument scope (g between) e) := by
  cases e with
  | column name => exact .refl _
  | _ => exact h between _

theorem kept_conditionNumber (between : Nat) (e : Expr) :
    Kept .tooDeep (conditionNumber scope (f between) e) (conditionNumber scope (g between) e) :=
  (kept_laxArgument h between e).bind fun _ => .refl _

theorem kept_conditionValue (e : Expr) :
    Kept .tooDeep (conditionValue scope f e) (conditionValue scope g e) := by
  cases e with
  | comparison symbol left right =>
      refine (kept_conditionNumber h 3 left).bind fun x => ?_
      exact (kept_conditionNumber h 3 right).bind fun y => .refl _
  | _ => exact (h 2 _).bind fun _ => .refl _

/-- A condition makes good all errors but that of depth. -/
theorem kept_condition (e : Expr) : Kept .tooDeep (condition scope f e) (condition scope g e) := by
  have hValue : Kept .tooDeep (conditionValue scope f e) (conditionValue scope g e) :=
    kept_conditionValue h e
  rcases hValue with hDepth | hSame
  · left
    simp only [condition, hDepth]
  · right
    simp only [condition, hSame]

theorem kept_call (function : String) (arguments : List Expr) :
    Kept .tooDeep (call scope f function arguments) (call scope g function arguments) := by
  unfold call
  split
  · exact .refl _
  · exact .refl _
  · split
    · exact (kept_laxArgument h 1 _).bind fun _ => .refl _
    · exact .refl _
  · split
    · exact (kept_condition h _).bind fun _ => h 1 _
    · exact .refl _
  · exact .refl _
  · exact .refl _

theorem kept_connective (symbol : String) (left right : Expr) :
    Kept .tooDeep (connective (f 0) symbol left right) (connective (g 0) symbol left right) := by
  refine (h 0 left).bind fun first => ?_
  split
  · exact (h 0 right).bind fun _ => .refl _
  · exact .refl _

/-- The outermost level keeps what is finished if the levels below do. -/
theorem kept_step (e : Expr) : Kept .tooDeep (step scope f e) (step scope g e) := by
  cases e with
  | literal cell => exact .refl _
  | column name => exact .refl _
  | unary symbol operand => exact (h 0 operand).bind fun _ => .refl _
  | arithmetic symbol left right =>
      exact (h 0 left).bind fun _ => (h 0 right).bind fun _ => .refl _
  | comparison symbol left right =>
      exact (h 0 left).bind fun _ => (h 0 right).bind fun _ => .refl _
  | connective symbol left right => exact kept_connective h symbol left right
  | call function arguments => exact kept_call h function arguments
  | unsupported type => exact .refl _

end Eval

/-- More calls keep what is finished. -/
theorem kept_eval (scope : Scope) {calls more : Nat} (hMore : calls ≤ more) (e : Expr) :
    Kept .tooDeep (eval scope calls e) (eval scope more e) := by
  induction calls using Nat.strongRecOn generalizing more e with
  | ind calls ih =>
      cases calls with
      | zero => exact .inl rfl
      | succ calls =>
          obtain ⟨more, rfl⟩ : ∃ n, more = n + 1 := ⟨more - 1, by omega⟩
          rw [eval_succ, eval_succ]
          exact Eval.kept_step (fun between e => ih (calls - between) (by omega) (by omega) e) e

/-! ## Reading -/

namespace Parser

/-- The second reader keeps what the first one finishes. -/
def KeptReader {α : Type} (r r' : Reader α) : Prop := ∀ ts, Kept ParseError.tooDeep (r ts) (r' ts)

section

variable {operand operand' otherwise otherwise' : Reader Expr}
  (h : KeptReader operand operand') {symbols : List String}
  {combine : String → Expr → Expr → Expr}

include h

theorem kept_chain (fuel : Nat) (left : Expr) :
    KeptReader (chain operand symbols combine fuel left)
      (chain operand' symbols combine fuel left) := by
  induction fuel generalizing left with
  | zero => exact fun ts => .refl _
  | succ fuel ih =>
      intro ts
      unfold chain
      split
      · exact .refl _
      · exact (h _).bind fun (right, rest) => ih _ rest

theorem kept_leftAssociative :
    KeptReader (leftAssociative operand symbols combine)
      (leftAssociative operand' symbols combine) :=
  fun ts => (h ts).bind fun (left, rest) => kept_chain h rest.length left rest

theorem kept_nonAssociative :
    KeptReader (nonAssociative operand symbols combine)
      (nonAssociative operand' symbols combine) := by
  intro ts
  refine (h ts).bind fun (left, rest) => ?_
  dsimp only
  split
  · exact .refl _
  · exact (h _).bind fun _ => .refl _

theorem kept_prefixed (hOther : KeptReader otherwise otherwise') (symbol : String) :
    KeptReader (prefixed operand otherwise symbol) (prefixed operand' otherwise' symbol) := by
  intro ts
  unfold prefixed
  split
  · exact (h _).bind fun _ => .refl _
  · exact hOther ts

theorem kept_argumentsFrom (fuel : Nat) :
    KeptReader (argumentsFrom operand fuel) (argumentsFrom operand' fuel) := by
  induction fuel with
  | zero => exact fun ts => .refl _
  | succ fuel ih =>
      intro ts
      refine (h ts).bind fun (argument, rest) => ?_
      dsimp only
      split
      · exact .refl _
      · exact (ih _).bind fun _ => .refl _

theorem kept_arguments : KeptReader (arguments operand) (arguments operand') := by
  intro ts
  unfold arguments
  split
  · exact .refl _
  · exact (kept_argumentsFrom h _ ts).bind fun _ => .refl _

/-- An atom reads either what stands between parentheses or arguments. -/
theorem kept_atom (hOther : KeptReader otherwise otherwise') :
    KeptReader (atom operand otherwise) (atom operand' otherwise') := by
  intro ts
  unfold atom
  split
  · exact (h _).bind fun _ => .refl _
  · split
    · split
      · exact (kept_arguments hOther _).bind fun _ => .refl _
      · exact .refl _
    · exact .refl _
    · exact .refl _

end

/-- More calls keep what is read of a level. -/
theorem kept_level {calls more : Nat} (hMore : calls ≤ more) (l : Level) :
    KeptReader (level calls l) (level more l) := by
  induction calls using Nat.strongRecOn generalizing more l with
  | ind calls ih =>
      cases calls with
      | zero => exact fun ts => .inl rfl
      | succ calls =>
          obtain ⟨more, rfl⟩ : ∃ n, more = n + 1 := ⟨more - 1, by omega⟩
          have hBelow : ∀ l, KeptReader (level calls l) (level more l) :=
            ih calls (by omega) (by omega)
          cases l with
          | disjunction | conjunction | sum | product => exact kept_leftAssociative (hBelow _)
          | comparison => exact kept_nonAssociative (hBelow _)
          | negation | sign => exact kept_prefixed (hBelow _) (hBelow _) _
          | atom =>
              rw [level_atom, level_atom]
              exact kept_atom (hBelow _) (ih (calls - 2) (by omega) (by omega) _)

end Parser

/-- More calls keep what is parsed. -/
theorem kept_parse {calls more : Nat} (hMore : calls ≤ more) (ts : List Token) :
    Kept .tooDeep (parse calls ts) (parse more ts) := by
  unfold parse
  split
  · exact .refl _
  · exact (Parser.kept_level hMore _ ts).bind fun _ => .refl _

/-- More calls keep what is read. -/
theorem kept_read {calls more : Nat} (hMore : calls ≤ more) (text : String) :
    Kept (.parse .tooDeep) (read calls text) (read more text) := by
  unfold read
  cases tokenize text with
  | error e => exact .refl _
  | ok tokens =>
      rcases kept_parse hMore tokens with hStopped | hSame
      · left
        simp only [hStopped]
      · right
        simp only [hSame]

end TableFlow.Formula
