import TableFlow.Proofs.Formula.Soundness

/-!
# What the grammar derives is read

A level reads every expression that the grammar derives at the level, provided that the tokens
behind the expression do not go on with it, and that there are calls enough. How many that is
depends on the tokens alone, and each rule of the grammar says what it adds: nothing is read in
another way because there are more calls to spare.

The proof follows the derivation. At a level of operators that associate to the left the derivation
starts with the last operator and the parser with the first one; what is carried along there is that
the parser comes to the chain of the operators that are still to be read.

## Main results

* `IsRead`: a level reads an expression by a certain number of calls, and by no fewer.
* `Derives.isRead`: a derived expression is read, whatever stops it.
-/

namespace TableFlow.Formula.Parser

/-! ## Results by a number of calls -/

/-- The greatest of some numbers. -/
def greatest : List Nat → Nat
  | [] => 0
  | need :: needs => max need (greatest needs)

theorem greatest_le_iff {needs : List Nat} {n : Nat} :
    greatest needs ≤ n ↔ ∀ need ∈ needs, need ≤ n := by
  induction needs with
  | nil => exact iff_of_true (Nat.zero_le n) (by simp)
  | cons need needs ih => rw [greatest, Nat.max_le, ih, List.forall_mem_cons]

/-- A result for which so many calls are needed, where there may be so many. -/
def within {α : Type} (need calls : Nat) (result : Except ParseError α) : Except ParseError α :=
  if need ≤ calls then result else .error .tooDeep

section

variable {α β : Type} {need need' calls : Nat}

theorem within_of_le {result : Except ParseError α} (h : need ≤ calls) :
    within need calls result = result :=
  if_pos h

theorem within_of_lt {result : Except ParseError α} (h : calls < need) :
    within need calls result = .error .tooDeep :=
  if_neg (Nat.not_le.2 h)

theorem within_succ (result : Except ParseError α) :
    within (need + 1) (calls + 1) result = within need calls result := by
  simp only [within, Nat.add_le_add_iff_right]

theorem within_bind (a : α) (next : α → Except ParseError β) :
    within need calls (.ok a) >>= next = within need calls (next a) := by
  unfold within
  split
  · rfl
  · rfl

/-- What needs two numbers of calls, needs the larger one. -/
theorem within_within (result : Except ParseError α) :
    within need calls (within need' calls result) = within (max need need') calls result := by
  simp only [within, Nat.max_le]
  by_cases h : need ≤ calls
  · simp only [h, true_and, if_true]
  · simp only [h, false_and, if_false]

/-- Two calls less are needed two calls deeper. -/
theorem within_greatest_sub {needs : List Nat} (h : ∀ need ∈ needs, 0 < need)
    (result : Except ParseError α) :
    within (greatest needs) (calls - 2) result =
      within (greatest (needs.map (· + 2))) calls result := by
  have hIff : greatest needs ≤ calls - 2 ↔ greatest (needs.map (· + 2)) ≤ calls := by
    rw [greatest_le_iff, greatest_le_iff, List.forall_mem_map]
    refine forall₂_congr fun need hNeed => ?_
    have hPos := h need hNeed
    omega
  simp only [within, hIff]

end

/-! ## Where an expression stops -/

/-- The tokens do not go on with an expression of the level. -/
structure Stops (lvl : Level) (ts : List Token) : Prop where
  notOperator : ∀ tight : Level, lvl.rank ≤ tight.rank → ∀ t, ts.head? = some t →
    ¬ t.IsOperator tight.infixSymbols
  notCall : ts.head? ≠ some (.punctuation "(")

theorem Stops.operator?_eq_none {lvl : Level} {ts : List Token} (h : Stops lvl ts) :
    operator? lvl.infixSymbols ts = none :=
  Parser.operator?_eq_none (h.notOperator lvl (Nat.le_refl _))

/-- What stops an expression stops those of tighter levels. -/
theorem Stops.tighter {lvl : Level} {ts : List Token} (h : Stops lvl ts) : Stops lvl.tighter ts :=
  ⟨fun tight hTight => h.notOperator tight (Nat.le_trans lvl.rank_le_tighter hTight), h.notCall⟩

/-- An operator stops its left operand. -/
theorem stops_operator {lvl : Level} {t : Token} (h : t.IsOperator lvl.infixSymbols)
    (rest : List Token) : Stops lvl.tighter (t :: rest) := by
  have hAtom : lvl ≠ .atom := by
    rintro rfl
    exact absurd h.2 (by simp [Level.infixSymbols, Level.chainSymbols])
  constructor
  · rintro tight hTight _ ⟨⟩ hOther
    exact Level.infixSymbols_apart (Nat.lt_of_lt_of_le (Level.rank_lt_tighter hAtom) hTight)
      t.symbol h.2 hOther.2
  · intro hCall
    cases hCall
    cases h.1

/-- A token that is neither an operator nor an opening parenthesis stops every expression. -/
theorem stops_of_kind {t : Token} (hKind : t.kind ≠ .operator) (hMark : t ≠ .punctuation "(")
    (lvl : Level) (rest : List Token) : Stops lvl (t :: rest) := by
  constructor
  · rintro tight - _ ⟨⟩ hOther
    exact hKind hOther.1
  · intro hCall
    cases hCall
    exact hMark rfl

/-! ## Chains -/

theorem chain_of_operator?_eq_none {operand : Reader Expr} {symbols : List String}
    {combine : String → Expr → Expr → Expr} {ts : List Token} (h : operator? symbols ts = none)
    (fuel : Nat) (left : Expr) : chain operand symbols combine fuel left ts = .ok (left, ts) := by
  cases fuel with
  | zero => rfl
  | succ fuel => simp only [chain, h]

/-- More fuel than there are tokens changes nothing. -/
theorem chain_fuel {operand : Reader Expr} {symbols : List String}
    {combine : String → Expr → Expr → Expr}
    (hShort : ∀ {ts rest : List Token} {e : Expr}, operand ts = .ok (e, rest) →
      rest.length ≤ ts.length) {fuel fuel' : Nat} {ts : List Token} (hFuel : ts.length ≤ fuel)
    (hFuel' : ts.length ≤ fuel') (left : Expr) :
    chain operand symbols combine fuel left ts = chain operand symbols combine fuel' left ts := by
  induction fuel generalizing fuel' ts left with
  | zero =>
      have hEmpty : ts = [] := List.length_eq_zero_iff.1 (by omega)
      subst hEmpty
      rw [chain_of_operator?_eq_none rfl, chain_of_operator?_eq_none rfl]
  | succ fuel ih =>
      cases hOperator : operator? symbols ts with
      | none =>
          rw [chain_of_operator?_eq_none hOperator, chain_of_operator?_eq_none hOperator]
      | some found =>
          obtain ⟨symbol, after⟩ := found
          obtain ⟨t, rfl, -, -⟩ := operator?_eq_some hOperator
          cases fuel' with
          | zero => simp at hFuel'
          | succ fuel' =>
              simp only [List.length_cons] at hFuel hFuel'
              simp only [chain, hOperator]
              cases hRight : operand after with
              | error err => rfl
              | ok read =>
                  obtain ⟨right, rest⟩ := read
                  have hRest := hShort hRight
                  have hEnough : rest.length ≤ fuel := by omega
                  have hEnough' : rest.length ≤ fuel' := by omega
                  exact ih hEnough hEnough' _

theorem ReadsLevel.length_le {reader : Reader Expr} {lvl : Level} (h : ReadsLevel reader lvl)
    {ts rest : List Token} {e : Expr} (hRead : reader ts = .ok (e, rest)) :
    rest.length ≤ ts.length := by
  obtain ⟨used, rfl, -⟩ := (h ts).sound hRead
  rw [List.length_append]
  omega

theorem level_succ_chained {lvl : Level} (h : lvl.chainSymbols ≠ []) (calls : Nat) :
    level (calls + 1) lvl =
      leftAssociative (level calls lvl.tighter) lvl.chainSymbols lvl.combine := by
  cases lvl <;> first | rfl | exact absurd rfl h

theorem level_succ_prefixed {lvl : Level} {symbol : String} (h : lvl.prefixSymbols = [symbol])
    (calls : Nat) :
    level (calls + 1) lvl = prefixed (level calls lvl) (level calls lvl.tighter) symbol := by
  cases lvl <;> cases h <;> rfl

/-! ## One rule at a time -/

/-- What there is to carry along a derivation: how the level reads the expression in front of tokens
that stop it, and where the level stands when the tokens may go on with one more operator. Both need
the same number of calls. -/
structure IsRead (need : Nat) (lvl : Level) (ts : List Token) (e : Expr) : Prop where
  stopped : ∀ (calls : Nat) {rest : List Token}, Stops lvl rest →
    level calls lvl (ts ++ rest) = within need calls (.ok (e, rest))
  chained : lvl.chainSymbols ≠ [] → ∀ (calls : Nat) {rest : List Token}, Stops lvl.tighter rest →
    level (calls + 1) lvl (ts ++ rest) = within need (calls + 1)
      (chain (level calls lvl.tighter) lvl.chainSymbols lvl.combine rest.length e rest)

/-- Nothing is read without a call. -/
theorem IsRead.pos {need : Nat} {lvl : Level} {ts : List Token} {e : Expr}
    (h : IsRead need lvl ts e) : 0 < need := by
  have hStops : Stops lvl [] := ⟨fun _ _ _ hSome => (nomatch hSome), nofun⟩
  have hNone := h.stopped 0 hStops
  rcases Nat.eq_zero_or_pos need with rfl | hPos
  · rw [within_of_le (Nat.le_refl 0)] at hNone
    cases hNone
  · exact hPos

/-- At a level of operators that associate to the left, reading ends with the chain. -/
theorem IsRead.of_chained {need : Nat} {lvl : Level} {ts : List Token} {e : Expr}
    (hNeed : 0 < need) (hLevel : lvl.chainSymbols ≠ [])
    (h : ∀ (calls : Nat) {rest : List Token}, Stops lvl.tighter rest →
      level (calls + 1) lvl (ts ++ rest) = within need (calls + 1)
        (chain (level calls lvl.tighter) lvl.chainSymbols lvl.combine rest.length e rest)) :
    IsRead need lvl ts e where
  chained _ := h
  stopped calls rest hStops := by
    cases calls with
    | zero => exact (within_of_lt hNeed).symm
    | succ calls =>
        have hSymbols : lvl.infixSymbols = lvl.chainSymbols := by
          cases lvl <;> first | rfl | exact absurd rfl hLevel
        have hNone := hStops.operator?_eq_none
        rw [hSymbols] at hNone
        have hRead := h calls hStops.tighter
        rwa [chain_of_operator?_eq_none hNone] at hRead

/-- At another level, only the stopped form is asked for. -/
theorem IsRead.of_stopped {need : Nat} {lvl : Level} {ts : List Token} {e : Expr}
    (hLevel : lvl.chainSymbols = [])
    (h : ∀ (calls : Nat) {rest : List Token}, Stops lvl rest →
      level (calls + 1) lvl (ts ++ rest) = within need calls (.ok (e, rest))) :
    IsRead (need + 1) lvl ts e where
  chained hSome := absurd hLevel hSome
  stopped calls rest hStops := by
    cases calls with
    | zero => exact (within_of_lt (Nat.succ_pos need)).symm
    | succ calls =>
        rw [within_succ]
        exact h calls hStops

/-- Where an expression of a tighter level stands, no operator of the level stands in front. -/
theorem operator?_prefix_eq_none {lvl : Level} {ts : List Token} {e : Expr} (hAtom : lvl ≠ .atom)
    (h : Derives lvl.tighter ts e) (rest : List Token) :
    operator? lvl.prefixSymbols (ts ++ rest) = none := by
  obtain ⟨t, others, rfl, hStarts⟩ := h.exists_first
  apply operator?_eq_none
  rintro _ ⟨⟩ hOperator
  cases hStarts with
  | name name => cases hOperator.1
  | literal text => cases hOperator.1
  | parenthesis => cases hOperator.1
  | operator hTight hOther =>
      exact Level.prefixSymbols_apart (Nat.lt_of_lt_of_le (Level.rank_lt_tighter hAtom) hTight)
        t.symbol hOperator.2 hOther.2

theorem read_prefixed_tighter {need : Nat} {lvl : Level} {ts : List Token} {e : Expr}
    {symbol : String} (hSymbols : lvl.prefixSymbols = [symbol]) (hLevel : lvl.chainSymbols = [])
    (h : Derives lvl.tighter ts e) (ih : IsRead need lvl.tighter ts e) :
    IsRead (need + 1) lvl ts e := by
  refine .of_stopped hLevel ?_
  intro calls rest hStops
  have hAtom : lvl ≠ .atom := by
    rintro rfl
    cases hSymbols
  have hNone := operator?_prefix_eq_none hAtom h rest
  rw [hSymbols] at hNone
  rw [level_succ_prefixed hSymbols]
  simp only [prefixed, hNone]
  exact ih.stopped calls hStops.tighter

/-- A level takes one step to the next tighter one. -/
theorem read_tighter {need : Nat} {lvl : Level} {ts : List Token} {e : Expr} (hAtom : lvl ≠ .atom)
    (h : Derives lvl.tighter ts e) (ih : IsRead need lvl.tighter ts e) :
    IsRead (need + 1) lvl ts e := by
  have hChain : lvl.chainSymbols ≠ [] → IsRead (need + 1) lvl ts e := by
    intro hLevel
    refine .of_chained (Nat.succ_pos need) hLevel ?_
    intro calls rest hStops
    rw [level_succ_chained hLevel, leftAssociative, ih.stopped calls hStops, within_bind,
      within_succ]
  cases lvl with
  | disjunction => exact hChain (by decide)
  | conjunction => exact hChain (by decide)
  | negation => exact read_prefixed_tighter rfl rfl h ih
  | comparison =>
      refine .of_stopped rfl ?_
      intro calls rest hStops
      have hNone : operator? comparisonSymbols rest = none := hStops.operator?_eq_none
      have hRead : level calls .sum (ts ++ rest) = _ := ih.stopped calls hStops.tighter
      rw [level, nonAssociative, hRead, within_bind]
      simp only [hNone]
  | sum => exact hChain (by decide)
  | product => exact hChain (by decide)
  | sign => exact read_prefixed_tighter rfl rfl h ih
  | atom => exact absurd rfl hAtom

theorem read_chained {need need' : Nat} {lvl : Level} {xs ys : List Token} {t : Token}
    {left right : Expr} (hOperator : t.IsOperator lvl.chainSymbols)
    (ihLeft : IsRead need lvl xs left) (ihRight : IsRead need' lvl.tighter ys right) :
    IsRead (max need (need' + 1)) lvl (xs ++ t :: ys) (lvl.combine t.symbol left right) := by
  have hLevel : lvl.chainSymbols ≠ [] := List.ne_nil_of_mem hOperator.2
  refine .of_chained (by omega) hLevel ?_
  intro calls rest hStops
  have hInfix : t.IsOperator lvl.infixSymbols := by
    cases lvl <;> first | exact hOperator | exact absurd rfl hLevel
  have hLeft := ihLeft.chained hLevel calls (stops_operator hInfix (ys ++ rest))
  have hRight := ihRight.stopped calls hStops
  rw [List.append_assoc, List.cons_append, hLeft, ← within_within, within_succ]
  congr 1
  simp only [List.length_cons, chain, operator?_cons hOperator]
  rw [hRight, within_bind]
  have hLong : rest.length ≤ (ys ++ rest).length := by simp
  dsimp only
  rw [chain_fuel (level_obeys calls lvl.tighter).length_le hLong (Nat.le_refl _)]

theorem read_compared {need need' : Nat} {xs ys : List Token} {t : Token} {left right : Expr}
    (hOperator : t.IsOperator comparisonSymbols) (ihLeft : IsRead need .sum xs left)
    (ihRight : IsRead need' .sum ys right) :
    IsRead (max need need' + 1) .comparison (xs ++ t :: ys) (.comparison t.symbol left right) := by
  refine .of_stopped rfl ?_
  intro calls rest hStops
  have hStopsLeft : Stops Level.comparison.tighter (t :: (ys ++ rest)) :=
    stops_operator hOperator (ys ++ rest)
  rw [List.append_assoc, List.cons_append, level, nonAssociative, ihLeft.stopped calls hStopsLeft,
    within_bind]
  simp only [operator?_cons hOperator]
  rw [ihRight.stopped calls hStops.tighter, within_bind, within_within]

theorem read_prefixed {need : Nat} {lvl : Level} {ts : List Token} {t : Token} {e : Expr}
    (hOperator : t.IsOperator lvl.prefixSymbols) (ih : IsRead need lvl ts e) :
    IsRead (need + 1) lvl (t :: ts) (.unary t.symbol e) := by
  obtain ⟨hSymbols, hLevel⟩ : lvl.prefixSymbols = [t.symbol] ∧ lvl.chainSymbols = [] := by
    have hMember := hOperator.2
    cases lvl with
    | negation => simpa [Level.prefixSymbols, Level.chainSymbols, eq_comm] using hMember
    | sign => simpa [Level.prefixSymbols, Level.chainSymbols, eq_comm] using hMember
    | _ => cases hMember
  refine .of_stopped hLevel ?_
  intro calls rest hStops
  rw [level_succ_prefixed hSymbols, List.cons_append]
  rw [hSymbols] at hOperator
  simp only [prefixed, operator?_cons hOperator]
  rw [ih.stopped calls hStops, within_bind]

/-! ## Atoms -/

/-- The mark that closes a parenthesis, or separates arguments, stops every expression. -/
theorem stops_punctuation {mark : String} (hMark : mark ≠ "(") (lvl : Level) (rest : List Token) :
    Stops lvl (.punctuation mark :: rest) := by
  apply stops_of_kind
  · rintro ⟨⟩
  · intro hEq
    cases hEq
    exact hMark rfl

theorem closing_cons {α : Type} (a : α) (rest : List Token) :
    closing a (.punctuation ")" :: rest) = .ok (a, rest) := by
  simp only [closing, punctuation?_cons]

theorem read_parenthesized {need : Nat} {ts : List Token} {e : Expr}
    (ih : IsRead need .disjunction ts e) :
    IsRead (need + 1) .atom (.punctuation "(" :: (ts ++ [.punctuation ")"])) e := by
  refine .of_stopped rfl ?_
  intro calls rest hStops
  have hStopsInner := @stops_punctuation ")" (by decide) .disjunction rest
  rw [level_atom, List.cons_append, List.append_assoc]
  simp only [atom, punctuation?_cons, List.cons_append, List.nil_append]
  rw [ih.stopped calls hStopsInner, within_bind]
  dsimp only
  rw [closing_cons]

theorem read_literal {text : String} {cell : Cell} (hValue : Constant.value? text = some cell) :
    IsRead 1 .atom [⟨.literal, text⟩] (.literal cell) := by
  refine .of_stopped rfl ?_
  intro calls rest hStops
  have hNone : punctuation? "(" (⟨.literal, text⟩ :: rest) = none := rfl
  rw [level_atom, within_of_le (Nat.zero_le calls)]
  simp only [List.cons_append, List.nil_append, atom, hNone, hValue]

theorem read_column (name : String) : IsRead 1 .atom [⟨.identifier, name⟩] (.column name) := by
  refine .of_stopped rfl ?_
  intro calls rest hStops
  have hNone : punctuation? "(" (⟨.identifier, name⟩ :: rest) = none := rfl
  rw [level_atom, within_of_le (Nat.zero_le calls)]
  simp only [List.cons_append, List.nil_append, atom, hNone, punctuation?_eq_none hStops.notCall]

/-- Arguments are read up to the parenthesis that closes the call. -/
theorem argumentsFrom_eq {need : List Token × Expr → Nat} {calls fuel : Nat}
    {parts : List (List Token × Expr)}
    (ih : ∀ part ∈ parts, IsRead (need part) .disjunction part.1 part.2) (hSome : parts ≠ [])
    (hFuel : parts.length ≤ fuel) (rest : List Token) :
    argumentsFrom (level calls .disjunction) fuel
        ([Token.punctuation ","].intercalate (parts.map Prod.fst) ++ .punctuation ")" :: rest) =
      within (greatest (parts.map need)) calls
        (.ok (parts.map Prod.snd, .punctuation ")" :: rest)) := by
  induction parts generalizing fuel with
  | nil => exact absurd rfl hSome
  | cons part parts ihParts =>
      cases fuel with
      | zero => simp at hFuel
      | succ fuel =>
          have hPart := ih part (by simp)
          cases parts with
          | nil =>
              have hStops := @stops_punctuation ")" (by decide) .disjunction rest
              simp only [List.map_cons, List.map_nil, List.intercalate_singleton, argumentsFrom,
                greatest, Nat.max_zero]
              rw [hPart.stopped calls hStops, within_bind]
              rfl
          | cons next parts =>
              have hFuelRest : (next :: parts).length ≤ fuel := by simpa using hFuel
              have hRest := ihParts (fun p hp => ih p (by simp [hp])) (by simp) hFuelRest
              simp only [List.map_cons, greatest] at hRest ⊢
              rw [List.intercalate_cons_cons, List.append_assoc, List.append_assoc, argumentsFrom,
                ← within_within]
              have hStops := @stops_punctuation "," (by decide) .disjunction
                ([Token.punctuation ","].intercalate (next.1 :: parts.map Prod.fst) ++
                  .punctuation ")" :: rest)
              rw [List.cons_append, List.nil_append]
              dsimp only
              rw [hPart.stopped calls hStops, within_bind]
              simp only [punctuation?_cons]
              rw [hRest, within_bind]

theorem length_le_intercalate (parts : List (List Token × Expr)) :
    parts.length ≤ ([Token.punctuation ","].intercalate (parts.map Prod.fst)).length + 1 := by
  induction parts with
  | nil => simp
  | cons part parts ih =>
      cases parts with
      | nil => simp
      | cons next parts =>
          simp only [List.map_cons, List.intercalate_cons_cons, List.length_append,
            List.length_cons, List.length_nil] at ih ⊢
          omega

/-- The first of some arguments does not start with a closing parenthesis. -/
theorem punctuation?_arguments {parts : List (List Token × Expr)}
    (args : ∀ part ∈ parts, Derives .disjunction part.1 part.2) (hSome : parts ≠ [])
    (rest : List Token) :
    punctuation? ")" ([Token.punctuation ","].intercalate (parts.map Prod.fst) ++ rest) = none := by
  cases parts with
  | nil => exact absurd rfl hSome
  | cons part parts =>
      obtain ⟨t, others, hTokens, hStarts⟩ := (args part (by simp)).exists_first
      have hFirst : ([Token.punctuation ","].intercalate
          ((part :: parts).map Prod.fst) ++ rest).head? = some t := by
        cases parts with
        | nil => simp [hTokens]
        | cons next parts => simp [hTokens]
      apply punctuation?_eq_none
      rw [hFirst]
      intro hEq
      have ht : t = .punctuation ")" := Option.some.inj hEq
      cases hStarts with
      | name name => cases ht
      | literal text => cases ht
      | parenthesis => exact absurd ht (by decide)
      | operator _ hOperator =>
          rw [ht] at hOperator
          cases hOperator.1

/-- What stands between the parentheses of a call is read as its arguments. -/
theorem arguments_eq {need : List Token × Expr → Nat} {calls : Nat}
    {parts : List (List Token × Expr)}
    (args : ∀ part ∈ parts, Derives .disjunction part.1 part.2)
    (ih : ∀ part ∈ parts, IsRead (need part) .disjunction part.1 part.2) (rest : List Token) :
    arguments (level calls .disjunction)
        ([Token.punctuation ","].intercalate (parts.map Prod.fst) ++ .punctuation ")" :: rest) =
      within (greatest (parts.map need)) calls (.ok (parts.map Prod.snd, rest)) := by
  by_cases hSome : parts = []
  · subst hSome
    have hNeed : greatest (([] : List (List Token × Expr)).map need) ≤ calls := Nat.zero_le calls
    rw [within_of_le hNeed]
    rfl
  · have hFuel : parts.length ≤ ([Token.punctuation ","].intercalate (parts.map Prod.fst) ++
        .punctuation ")" :: rest).length + 1 := by
      have hLength := length_le_intercalate parts
      rw [List.length_append]
      omega
    simp only [arguments, punctuation?_arguments args hSome]
    rw [argumentsFrom_eq ih hSome hFuel rest, within_bind]
    dsimp only
    rw [closing_cons]

theorem read_call {need : List Token × Expr → Nat} {name : String}
    {parts : List (List Token × Expr)}
    (args : ∀ part ∈ parts, Derives .disjunction part.1 part.2)
    (ih : ∀ part ∈ parts, IsRead (need part) .disjunction part.1 part.2) :
    IsRead (greatest (parts.map fun part => need part + 2) + 1) .atom
      (⟨.identifier, name⟩ :: .punctuation "(" ::
        ([Token.punctuation ","].intercalate (parts.map Prod.fst) ++ [.punctuation ")"]))
      (.call (functionName name) (parts.map Prod.snd)) := by
  refine .of_stopped rfl ?_
  intro calls rest hStops
  have hNone : ∀ ts, punctuation? "(" (⟨.identifier, name⟩ :: ts) = none := fun _ => rfl
  have hNeeds : ∀ n ∈ parts.map need, 0 < n := by
    intro n hn
    obtain ⟨part, hPart, rfl⟩ := List.mem_map.1 hn
    exact (ih part hPart).pos
  have hDeeper : (parts.map fun part => need part + 2) = (parts.map need).map (· + 2) := by
    rw [List.map_map]
    rfl
  rw [level_atom, List.cons_append, List.cons_append, List.append_assoc, List.cons_append,
    List.nil_append]
  simp only [atom, hNone, punctuation?_cons]
  rw [arguments_eq args ih rest, within_bind, hDeeper, within_greatest_sub hNeeds]

/-! ## Every derivation -/

/-- A derived expression is read in front of whatever stops it, by some number of calls. -/
theorem Derives.isRead {lvl : Level} {ts : List Token} {e : Expr} (h : Derives lvl ts e) :
    ∃ need, IsRead need lvl ts e := by
  induction h with
  | @tighter lvl ts e inner ih =>
      obtain ⟨need, ih⟩ := ih
      by_cases hAtom : lvl = .atom
      · subst hAtom
        exact ⟨need, ih⟩
      · exact ⟨_, read_tighter hAtom inner ih⟩
  | chained hOperator _ _ ihLeft ihRight =>
      obtain ⟨need, ihLeft⟩ := ihLeft
      obtain ⟨need', ihRight⟩ := ihRight
      exact ⟨_, read_chained hOperator ihLeft ihRight⟩
  | compared hOperator _ _ ihLeft ihRight =>
      obtain ⟨need, ihLeft⟩ := ihLeft
      obtain ⟨need', ihRight⟩ := ihRight
      exact ⟨_, read_compared hOperator ihLeft ihRight⟩
  | prefixed hOperator _ ih =>
      obtain ⟨need, ih⟩ := ih
      exact ⟨_, read_prefixed hOperator ih⟩
  | parenthesized _ ih =>
      obtain ⟨need, ih⟩ := ih
      exact ⟨_, read_parenthesized ih⟩
  | literal hValue => exact ⟨_, read_literal hValue⟩
  | column => exact ⟨_, read_column _⟩
  | @call name parts args ih =>
      have hEach : ∀ part : List Token × Expr, ∃ need : Nat, part ∈ parts →
          IsRead need .disjunction part.1 part.2 := by
        intro part
        by_cases hMember : part ∈ parts
        · obtain ⟨need, hRead⟩ := ih part hMember
          exact ⟨need, fun _ => hRead⟩
        · exact ⟨0, fun h => absurd h hMember⟩
      obtain ⟨need, hRead⟩ := Classical.skolem.1 hEach
      exact ⟨_, read_call args hRead⟩

end TableFlow.Formula.Parser
