import TableFlow.Proofs.Formula.Grammar

/-!
# What the parser accepts

A reader that succeeds has used the tokens up to the ones it gives back, and these tokens derive the
expression that it gives. This holds of every level, for every number of calls; the parts of the
parser that are common to several levels have one lemma each, and `Obeys.bind` puts them together.

## Main results

* `level_obeys`: what a level reads from the front of the tokens derives what it gives.
-/

namespace TableFlow.Formula.Parser

/-! ## Operators and punctuation at the front -/

theorem operator?_eq_some {symbols : List String} {ts rest : List Token} {symbol : String}
    (h : operator? symbols ts = some (symbol, rest)) :
    ∃ t, ts = t :: rest ∧ t.IsOperator symbols ∧ t.symbol = symbol := by
  unfold operator? at h
  split at h
  · next value after =>
    dsimp only at h
    split at h
    · next hMember =>
      cases h
      exact ⟨⟨.operator, value⟩, rfl, ⟨rfl, hMember⟩, rfl⟩
    · cases h
  · cases h

theorem operator?_cons {symbols : List String} {t : Token} (h : t.IsOperator symbols)
    (rest : List Token) : operator? symbols (t :: rest) = some (t.symbol, rest) := by
  obtain ⟨kind, value⟩ := t
  obtain ⟨rfl, hMember⟩ := h
  exact if_pos hMember

theorem operator?_eq_none {symbols : List String} {ts : List Token}
    (h : ∀ t, ts.head? = some t → ¬ t.IsOperator symbols) : operator? symbols ts = none := by
  cases hOperator : operator? symbols ts with
  | none => rfl
  | some found =>
      obtain ⟨symbol, rest⟩ := found
      obtain ⟨t, rfl, hIs, -⟩ := operator?_eq_some hOperator
      exact absurd hIs (h t rfl)

theorem punctuation?_eq_some {mark : String} {ts rest : List Token}
    (h : punctuation? mark ts = some rest) : ts = .punctuation mark :: rest := by
  unfold punctuation? at h
  split at h
  · split at h
    · next hMark =>
      cases h
      rw [hMark]
      rfl
    · cases h
  · cases h

theorem punctuation?_cons (mark : String) (rest : List Token) :
    punctuation? mark (.punctuation mark :: rest) = some rest :=
  if_pos rfl

theorem punctuation?_eq_none {mark : String} {ts : List Token}
    (h : ts.head? ≠ some (.punctuation mark)) : punctuation? mark ts = none := by
  cases hMark : punctuation? mark ts with
  | none => rfl
  | some rest =>
      rw [punctuation?_eq_some hMark] at h
      exact absurd rfl h

/-! ## Results that obey a grammar -/

/-- A literal token of the list has no value. -/
def HasNoValue (ts : List Token) (text : String) : Prop :=
  ⟨.literal, text⟩ ∈ ts ∧ Constant.value? text = none

/-- The result of reading the tokens `ts`: the tokens that were used derive what is given, and only
a literal among the tokens is said to have no value. -/
structure Obeys {α : Type} (derives : List Token → α → Prop) (ts : List Token)
    (result : Except ParseError (α × List Token)) : Prop where
  sound : ∀ {a : α} {rest : List Token}, result = .ok (a, rest) →
    ∃ used, ts = used ++ rest ∧ derives used a
  noValue : ∀ {text : String}, result = .error (.noValue text) → HasNoValue ts text

section

variable {α β : Type} {derives : List Token → α → Prop} {ts : List Token}

theorem Obeys.given {a : α} (h : derives [] a) : Obeys derives ts (.ok (a, ts)) where
  sound hRead := by
    cases hRead
    exact ⟨[], rfl, h⟩
  noValue hRead := by cases hRead

theorem Obeys.error {err : ParseError} (h : ∀ text, err = .noValue text → HasNoValue ts text) :
    Obeys derives ts (.error err) where
  sound hRead := by cases hRead
  noValue hRead := by
    cases hRead
    exact h _ rfl

/-- Tokens in front that are already read are a part of what derives the result. -/
theorem Obeys.append {rest : List Token} {result : Except ParseError (α × List Token)}
    (front : List Token) (h : Obeys (fun used => derives (front ++ used)) rest result) :
    Obeys derives (front ++ rest) result where
  sound hRead := by
    obtain ⟨used, rfl, hDerives⟩ := h.sound hRead
    exact ⟨front ++ used, (List.append_assoc ..).symm, hDerives⟩
  noValue hRead := by
    obtain ⟨hMember, hValue⟩ := h.noValue hRead
    exact ⟨List.mem_append_right front hMember, hValue⟩

/-- Reading goes on with the tokens that the first part has left. -/
theorem Obeys.bind {derives' : List Token → β → Prop}
    {result : Except ParseError (α × List Token)}
    {next : α × List Token → Except ParseError (β × List Token)} (hFirst : Obeys derives ts result)
    (hNext : ∀ {front rest : List Token} {a : α}, ts = front ++ rest → derives front a →
      Obeys (fun used => derives' (front ++ used)) rest (next (a, rest))) :
    Obeys derives' ts (result >>= next) := by
  cases result with
  | error err =>
      apply Obeys.error
      rintro text rfl
      exact hFirst.noValue rfl
  | ok read =>
      obtain ⟨a, rest⟩ := read
      obtain ⟨front, rfl, hDerives⟩ := hFirst.sound rfl
      exact (hNext rfl hDerives).append front

end

/-! ## The parts of the parser -/

/-- A reader obeys the grammar of a level on every list of tokens. -/
def ReadsLevel (reader : Reader Expr) (lvl : Level) : Prop :=
  ∀ ts, Obeys (Derives lvl) ts (reader ts)

/-- A chain is the rest of an expression whose front is already read. -/
theorem chain_obeys {operand : Reader Expr} {lvl : Level}
    (hOperand : ReadsLevel operand lvl.tighter) {fuel : Nat} {front : List Token} {left : Expr}
    (hLeft : Derives lvl front left) (ts : List Token) :
    Obeys (fun used => Derives lvl (front ++ used)) ts
      (chain operand lvl.chainSymbols lvl.combine fuel left ts) := by
  have hEnd : Obeys (fun used => Derives lvl (front ++ used)) ts (.ok (left, ts)) :=
    .given (by rwa [List.append_nil])
  induction fuel generalizing front left ts with
  | zero => exact hEnd
  | succ fuel ih =>
      unfold chain
      split
      · exact hEnd
      · next symbol after hFront =>
        obtain ⟨t, rfl, hIs, rfl⟩ := operator?_eq_some hFront
        refine .append [t] ((hOperand after).bind ?_)
        intro ys rest right hAfter hRight
        have hBoth : Derives lvl (front ++ t :: ys) (lvl.combine t.symbol left right) :=
          .chained hIs hLeft hRight
        have hRest := ih hBoth rest (.given (by rwa [List.append_nil]))
        simpa only [List.append_assoc, List.cons_append, List.nil_append] using hRest

theorem leftAssociative_obeys {operand : Reader Expr} {lvl : Level}
    (hOperand : ReadsLevel operand lvl.tighter) :
    ReadsLevel (leftAssociative operand lvl.chainSymbols lvl.combine) lvl := by
  intro ts
  refine (hOperand ts).bind ?_
  intro front rest left _ hLeft
  exact chain_obeys hOperand (.tighter hLeft) rest

theorem nonAssociative_obeys {operand : Reader Expr} (hOperand : ReadsLevel operand .sum) :
    ReadsLevel (nonAssociative operand comparisonSymbols .comparison) .comparison := by
  intro ts
  refine (hOperand ts).bind ?_
  intro front rest left _ hLeft
  dsimp only
  split
  · exact .given (by rw [List.append_nil]; exact .tighter hLeft)
  · next symbol after hFront =>
    obtain ⟨t, rfl, hIs, rfl⟩ := operator?_eq_some hFront
    refine .append [t] ((hOperand after).bind ?_)
    intro ys others right _ hRight
    apply Obeys.given
    rw [List.append_nil]
    exact .compared hIs hLeft hRight

theorem prefixed_obeys {operand otherwise : Reader Expr} {lvl : Level} {symbol : String}
    (hSymbols : lvl.prefixSymbols = [symbol]) (hOperand : ReadsLevel operand lvl)
    (hOtherwise : ReadsLevel otherwise lvl.tighter) :
    ReadsLevel (prefixed operand otherwise symbol) lvl := by
  intro ts
  unfold prefixed
  split
  · next found after hFront =>
    obtain ⟨t, rfl, hIs, rfl⟩ := operator?_eq_some hFront
    refine .append [t] ((hOperand after).bind ?_)
    intro ys rest inner _ hInner
    apply Obeys.given
    rw [List.append_nil]
    exact .prefixed (by rwa [hSymbols]) hInner
  · exact ⟨fun hRead => by
      obtain ⟨used, hUsed, hDerives⟩ := (hOtherwise ts).sound hRead
      exact ⟨used, hUsed, .tighter hDerives⟩, (hOtherwise ts).noValue⟩

theorem closing_obeys {α : Type} {derives : List Token → α → Prop} {a : α}
    (h : derives [.punctuation ")"] a) (ts : List Token) : Obeys derives ts (closing a ts) := by
  unfold closing
  split
  · next rest hFront =>
    rw [punctuation?_eq_some hFront]
    exact .append [.punctuation ")"] (.given h)
  · apply Obeys.error
    rintro text ⟨⟩

/-- The tokens of a list of arguments, a comma between each two of them. -/
def DerivesArguments (ts : List Token) (args : List Expr) : Prop :=
  ∃ parts : List (List Token × Expr), (∀ part ∈ parts, Derives .disjunction part.1 part.2) ∧
    ts = [Token.punctuation ","].intercalate (parts.map Prod.fst) ∧ args = parts.map Prod.snd

theorem derivesArguments_nil : DerivesArguments [] [] := ⟨[], by simp, rfl, rfl⟩

theorem derivesArguments_single {ts : List Token} {e : Expr} (h : Derives .disjunction ts e) :
    DerivesArguments ts [e] :=
  ⟨[(ts, e)], by simpa using h, by simp, rfl⟩

theorem derivesArguments_cons {ts us : List Token} {e : Expr} {args : List Expr}
    (h : Derives .disjunction ts e) (hArgs : DerivesArguments us args) (hSome : args ≠ []) :
    DerivesArguments (ts ++ .punctuation "," :: us) (e :: args) := by
  obtain ⟨parts, hParts, rfl, rfl⟩ := hArgs
  cases parts with
  | nil => exact absurd rfl hSome
  | cons part parts =>
      refine ⟨(ts, e) :: part :: parts, ?_, ?_, rfl⟩
      · simp only [List.mem_cons, forall_eq_or_imp] at hParts ⊢
        exact ⟨h, hParts⟩
      · simp

/-- With more fuel than tokens there is an argument after each comma. -/
theorem argumentsFrom_obeys {expression : Reader Expr}
    (hExpression : ReadsLevel expression .disjunction) (fuel : Nat) (ts : List Token)
    (hFuel : ts.length < fuel) :
    Obeys (fun used args => DerivesArguments used args ∧ args ≠ []) ts
      (argumentsFrom expression fuel ts) := by
  induction fuel generalizing ts with
  | zero => omega
  | succ fuel ih =>
      refine (hExpression ts).bind ?_
      intro front rest argument hSplit hArgument
      dsimp only
      split
      · apply Obeys.given
        rw [List.append_nil]
        exact ⟨derivesArguments_single hArgument, by simp⟩
      · next after hFront =>
        rw [punctuation?_eq_some hFront] at hSplit ⊢
        have hShort : after.length < fuel := by
          rw [hSplit] at hFuel
          simp only [List.length_append, List.length_cons] at hFuel
          omega
        refine .append [.punctuation ","] ((ih after hShort).bind ?_)
        rintro us others args - ⟨hArgs, hSome⟩
        apply Obeys.given
        rw [List.append_nil]
        exact ⟨derivesArguments_cons hArgument hArgs hSome, by simp⟩

theorem arguments_obeys {expression : Reader Expr}
    (hExpression : ReadsLevel expression .disjunction) (ts : List Token) :
    Obeys (fun used args => ∃ front, used = front ++ [.punctuation ")"] ∧
      DerivesArguments front args) ts (arguments expression ts) := by
  unfold arguments
  split
  · next rest hFront =>
    rw [punctuation?_eq_some hFront]
    exact .append [.punctuation ")"] (.given ⟨[], rfl, derivesArguments_nil⟩)
  · refine (argumentsFrom_obeys hExpression _ ts (Nat.lt_succ_self _)).bind ?_
    rintro front rest args - ⟨hArgs, -⟩
    exact closing_obeys ⟨front, rfl, hArgs⟩ rest

theorem atom_obeys {expression argument : Reader Expr}
    (hExpression : ReadsLevel expression .disjunction)
    (hArgument : ReadsLevel argument .disjunction) :
    ReadsLevel (atom expression argument) .atom := by
  intro ts
  unfold atom
  split
  · next rest hFront =>
    rw [punctuation?_eq_some hFront]
    refine .append [.punctuation "("] ((hExpression rest).bind ?_)
    intro inner others e _ hInner
    exact closing_obeys (.parenthesized hInner) others
  · split
    · next name rest _ =>
      split
      · next after hFront =>
        rw [punctuation?_eq_some hFront]
        refine .append [⟨.identifier, name⟩, .punctuation "("]
          ((arguments_obeys hArgument after).bind ?_)
        rintro used others args - ⟨front, rfl, parts, hParts, rfl, rfl⟩
        apply Obeys.given
        rw [List.append_nil]
        exact .call hParts
      · exact .append [⟨.identifier, name⟩] (.given .column)
    · next text rest _ =>
      split
      · next cell hValue => exact .append [⟨.literal, text⟩] (.given (.literal hValue))
      · next hValue =>
        apply Obeys.error
        rintro _ ⟨⟩
        exact ⟨List.mem_cons_self, hValue⟩
    · apply Obeys.error
      rintro text ⟨⟩

/-! ## Every level -/

/-- A level takes from the front of the tokens what derives the expression that it gives. -/
theorem level_obeys (calls : Nat) (lvl : Level) : ReadsLevel (level calls lvl) lvl := by
  induction calls using Nat.strongRecOn generalizing lvl with
  | ind calls ih =>
      cases calls with
      | zero =>
          intro ts
          apply Obeys.error
          rintro text ⟨⟩
      | succ calls =>
          have hBelow : ∀ lvl, ReadsLevel (level calls lvl) lvl := ih calls (Nat.lt_succ_self calls)
          cases lvl with
          | disjunction => exact leftAssociative_obeys (hBelow .conjunction)
          | conjunction => exact leftAssociative_obeys (hBelow .negation)
          | negation => exact prefixed_obeys rfl (hBelow .negation) (hBelow .comparison)
          | comparison => exact nonAssociative_obeys (hBelow .sum)
          | sum => exact leftAssociative_obeys (hBelow .product)
          | product => exact leftAssociative_obeys (hBelow .sign)
          | sign => exact prefixed_obeys rfl (hBelow .sign) (hBelow .atom)
          | atom =>
              rw [level_atom]
              exact atom_obeys (hBelow .disjunction) (ih (calls - 2) (by omega) .disjunction)

end TableFlow.Formula.Parser
