import TableFlow.Proofs.Formula.Completeness
import TableFlow.Proofs.Formula.Tokens

/-!
# The parser accepts exactly its grammar

The tokens of a text are an expression if and only if the grammar derives it from the tokens before
the end of the formula, and any other tokens are malformed: they are refused with an error that
names what stands where it may not. The bound on the calls is the only other reason to refuse.

## Main results

* `parse_eq_ok_iff`: the expression that is given is the one that is derived.
* `parse_exact`: what the parser does with the tokens of a text.
-/

namespace TableFlow.Formula

/-- The errors of tokens that are not an expression. The depth of an expression and literals without
a value are no such errors. -/
def ParseError.IsMalformed : ParseError → Prop
  | .emptyExpression | .unexpected _ | .missingParenthesis => True
  | .tooDeep | .noValue _ => False

namespace Parser

/-- Separators and parts that have a property make up a list that has it. -/
theorem forall_mem_intercalate {P : Token → Prop} {separator : List Token}
    {parts : List (List Token)} (hSeparator : ∀ t ∈ separator, P t)
    (hParts : ∀ part ∈ parts, ∀ t ∈ part, P t) : ∀ t ∈ separator.intercalate parts, P t := by
  induction parts with
  | nil => simp
  | cons part parts ih =>
      obtain ⟨hPart, hRest⟩ := List.forall_mem_cons.1 hParts
      cases parts with
      | nil => rwa [List.intercalate_singleton]
      | cons next parts =>
          rw [List.intercalate_cons_cons]
          exact List.forall_mem_append.2
            ⟨List.forall_mem_append.2 ⟨hPart, hSeparator⟩, ih hRest⟩

/-- An expression does not reach beyond the end of the formula. -/
theorem Derives.kind_ne_endOfFormula {lvl : Level} {ts : List Token} {e : Expr}
    (h : Derives lvl ts e) : ∀ t ∈ ts, t.kind ≠ .endOfFormula := by
  have hOperatorKind : ∀ {t : Token} {symbols : List String}, t.IsOperator symbols →
      t.kind ≠ .endOfFormula := by
    intro t symbols hOperator
    rw [hOperator.1]
    decide
  induction h with
  | tighter _ ih => exact ih
  | chained hOperator _ _ ihLeft ihRight =>
      exact List.forall_mem_append.2
        ⟨ihLeft, List.forall_mem_cons.2 ⟨hOperatorKind hOperator, ihRight⟩⟩
  | compared hOperator _ _ ihLeft ihRight =>
      exact List.forall_mem_append.2
        ⟨ihLeft, List.forall_mem_cons.2 ⟨hOperatorKind hOperator, ihRight⟩⟩
  | prefixed hOperator _ ih => exact List.forall_mem_cons.2 ⟨hOperatorKind hOperator, ih⟩
  | parenthesized _ ih =>
      refine List.forall_mem_cons.2 ⟨by rintro ⟨⟩, List.forall_mem_append.2 ⟨ih, ?_⟩⟩
      exact List.forall_mem_singleton.2 (by rintro ⟨⟩)
  | literal => exact List.forall_mem_singleton.2 (by rintro ⟨⟩)
  | column => exact List.forall_mem_singleton.2 (by rintro ⟨⟩)
  | @call name parts _ ih =>
      have hArguments : ∀ t ∈ [Token.punctuation ","].intercalate (parts.map Prod.fst),
          t.kind ≠ .endOfFormula := by
        apply forall_mem_intercalate
        · exact List.forall_mem_singleton.2 (by rintro ⟨⟩)
        · intro part hPart
          obtain ⟨whole, hWhole, rfl⟩ := List.mem_map.1 hPart
          exact ih whole hWhole
      refine List.forall_mem_cons.2 ⟨by rintro ⟨⟩, List.forall_mem_cons.2 ⟨by rintro ⟨⟩, ?_⟩⟩
      refine List.forall_mem_append.2 ⟨hArguments, ?_⟩
      exact List.forall_mem_singleton.2 (by rintro ⟨⟩)

end Parser

open Formula.Parser

/-! ## The whole formula -/

section

variable {calls : Nat}

/-- Where the tokens end once, they end behind all the tokens that an expression may use. -/
theorem eq_of_append_end {body used rest : List Token} (hBody : ∀ t ∈ body, t.kind ≠ .endOfFormula)
    (hUsed : ∀ t ∈ used, t.kind ≠ .endOfFormula) (hSplit : body ++ [.endOfFormula] = used ++ rest)
    (hRest : (front rest).kind = .endOfFormula) : body = used ∧ rest = [.endOfFormula] := by
  cases rest with
  | nil =>
      have hEnd : Token.endOfFormula ∈ used := by
        rw [List.append_nil] at hSplit
        rw [← hSplit]
        simp
      exact absurd rfl (hUsed _ hEnd)
  | cons t rest =>
      rcases List.append_eq_append_iff.1 hSplit with ⟨xs, rfl, hTail⟩ | ⟨xs, rfl, hTail⟩
      · cases xs with
        | nil => simpa using hTail.symm
        | cons x xs =>
            have hEnd : Token.endOfFormula = x := by
              simpa using congrArg List.head? hTail
            exact absurd (by rw [← hEnd]; rfl) (hUsed x (by simp))
      · cases xs with
        | nil => simpa using hTail
        | cons x xs =>
            cases hTail
            exact absurd hRest (hBody t (by simp))

/-- What the parser does with an expression that it has read. -/
def atEnd (read : Expr × List Token) : Except ParseError Expr :=
  if (front read.2).kind = .endOfFormula then .ok read.1
  else .error (.unexpected (front read.2))

theorem atEnd_eq_ok {read : Expr × List Token} {e : Expr} (h : atEnd read = .ok e) :
    read.1 = e ∧ (front read.2).kind = .endOfFormula := by
  unfold atEnd at h
  split at h
  · next hEnd =>
    cases h
    exact ⟨rfl, hEnd⟩
  · cases h

theorem atEnd_ne_noValue (read : Expr × List Token) (text : String) :
    atEnd read ≠ .error (.noValue text) := by
  unfold atEnd
  split <;> rintro ⟨⟩

/-- A formula that is not empty is read as a disjunction that reaches the end. -/
theorem parse_eq {ts : List Token} (h : (front ts).kind ≠ .endOfFormula) :
    parse calls ts = level calls .disjunction ts >>= atEnd :=
  if_neg h

/-- What is read is derived, by all the tokens before the end. -/
theorem derives_of_parse {body : List Token} {e : Expr}
    (hBody : ∀ t ∈ body, t.kind ≠ .endOfFormula)
    (h : parse calls (body ++ [.endOfFormula]) = .ok e) : Derives .disjunction body e := by
  by_cases hFront : (front (body ++ [.endOfFormula])).kind = .endOfFormula
  · simp [parse, hFront] at h
  · rw [parse_eq hFront] at h
    cases hRead : level calls .disjunction (body ++ [.endOfFormula]) with
    | error err =>
        rw [hRead] at h
        cases h
    | ok read =>
        obtain ⟨expr, rest⟩ := read
        rw [hRead] at h
        obtain ⟨used, hSplit, hDerives⟩ := (level_obeys calls .disjunction _).sound hRead
        obtain ⟨rfl, hRest⟩ := atEnd_eq_ok h
        rw [(eq_of_append_end hBody hDerives.kind_ne_endOfFormula hSplit hRest).1]
        exact hDerives

/-- What is derived is read, by the calls that it needs. -/
theorem parse_of_isRead {need : Nat} {body : List Token} {e : Expr}
    (h : Derives .disjunction body e) (hRead : IsRead need .disjunction body e) :
    parse calls (body ++ [.endOfFormula]) = within need calls (.ok e) := by
  have hFront : (front (body ++ [.endOfFormula])).kind ≠ .endOfFormula := by
    obtain ⟨t, others, rfl, -⟩ := h.exists_first
    exact h.kind_ne_endOfFormula t (by simp)
  have hStops : Stops .disjunction [.endOfFormula] :=
    stops_of_kind (by decide) (by decide) .disjunction []
  rw [parse_eq hFront, hRead.stopped calls hStops, within_bind]
  rfl

/-- The expression that is given is the one that is derived. -/
theorem parse_eq_ok_iff {body : List Token} (hBody : ∀ t ∈ body, t.kind ≠ .endOfFormula)
    (hDepth : parse calls (body ++ [.endOfFormula]) ≠ .error .tooDeep) (e : Expr) :
    parse calls (body ++ [.endOfFormula]) = .ok e ↔ Derives .disjunction body e := by
  constructor
  · exact derives_of_parse hBody
  · intro h
    obtain ⟨need, hRead⟩ := h.isRead
    have hParse : parse calls (body ++ [.endOfFormula]) = within need calls (.ok e) :=
      parse_of_isRead h hRead
    by_cases hNeed : need ≤ calls
    · rwa [within_of_le hNeed] at hParse
    · rw [within_of_lt (Nat.not_le.1 hNeed)] at hParse
      exact absurd hParse hDepth

/-- Where each literal has a value, whatever is refused is malformed or too deep. -/
theorem isMalformed_of_parse {ts : List Token} {err : ParseError}
    (hValues : ∀ t ∈ ts, t.kind = .literal → ∃ cell, Constant.value? t.value = some cell)
    (hDepth : err ≠ .tooDeep) (h : parse calls ts = .error err) : err.IsMalformed := by
  cases err with
  | emptyExpression => trivial
  | unexpected token => trivial
  | missingParenthesis => trivial
  | tooDeep => exact absurd rfl hDepth
  | noValue text =>
      by_cases hFront : (front ts).kind = .endOfFormula
      · simp [parse, hFront] at h
      · rw [parse_eq hFront] at h
        cases hRead : level calls .disjunction ts with
        | error err =>
            rw [hRead] at h
            cases h
            obtain ⟨hMember, hNone⟩ := (level_obeys calls .disjunction _).noValue hRead
            obtain ⟨cell, hSome⟩ := hValues _ hMember rfl
            rw [hNone] at hSome
            cases hSome
        | ok read =>
            rw [hRead] at h
            exact absurd h (atEnd_ne_noValue read text)

/-- **The parser accepts exactly its grammar.** The tokens of a text are a body and the end of the
formula. Unless there are too few calls, the expression that the parser gives is the one that the
whole body derives, there is at most one, and a body that derives none is refused as malformed. -/
theorem parse_exact {text : String} {tokens : List Token} (hText : tokenize text = .ok tokens)
    (hDepth : parse calls tokens ≠ .error .tooDeep) :
    ∃ body, tokens = body ++ [.endOfFormula] ∧ (∀ t ∈ body, t.kind ≠ .endOfFormula) ∧
      (∀ e, parse calls tokens = .ok e ↔ Derives .disjunction body e) ∧
      (∀ e e', Derives .disjunction body e → Derives .disjunction body e' → e = e') ∧
      ((∀ e, ¬ Derives .disjunction body e) →
        ∃ err, parse calls tokens = .error err ∧ err.IsMalformed) := by
  obtain ⟨body, rfl, hBody⟩ := tokenize_emits hText
  have hInner : ∀ t ∈ body, t.kind ≠ .endOfFormula := fun t ht => (hBody t ht).notEnd
  have hIff := parse_eq_ok_iff hInner hDepth
  refine ⟨body, rfl, hInner, hIff, ?_, ?_⟩
  · intro e e' h h'
    have hSame := ((hIff e).2 h).symm.trans ((hIff e').2 h')
    cases hSame
    rfl
  · intro hNone
    cases hParse : parse calls (body ++ [.endOfFormula]) with
    | ok e => exact absurd ((hIff e).1 hParse) (hNone e)
    | error err =>
        have hShallow : err ≠ .tooDeep := by
          rintro rfl
          exact hDepth hParse
        have hValues : ∀ t ∈ body ++ [.endOfFormula], t.kind = .literal →
            ∃ cell, Constant.value? t.value = some cell :=
          fun t ht => exists_value_of_tokenize hText ht
        exact ⟨err, rfl, isMalformed_of_parse hValues hShallow hParse⟩

end

/-- A formula that uses every level of the grammar but the connectives. -/
def nestedFormula : String := "not total >= 2 + round(price, 1) * -3"

def nestedTokens : List Token := [
  ⟨.operator, "NOT"⟩, ⟨.identifier, "total"⟩, ⟨.operator, ">="⟩, ⟨.literal, "2"⟩,
  ⟨.operator, "+"⟩, ⟨.identifier, "round"⟩, ⟨.punctuation, "("⟩, ⟨.identifier, "price"⟩,
  ⟨.punctuation, ","⟩, ⟨.literal, "1"⟩, ⟨.punctuation, ")"⟩, ⟨.operator, "*"⟩,
  ⟨.operator, "-"⟩, ⟨.literal, "3"⟩, .endOfFormula]

def nestedExpr : Expr :=
  .unary "NOT" (.comparison ">=" (.column "total") (.arithmetic "+" (.literal (.int 2))
    (.arithmetic "*" (.call "ROUND" [.column "price", .literal (.int 1)])
      (.unary "-" (.literal (.int 3))))))

/-- The grammar derives the formula, since the parser reads it. -/
theorem parse_exact_nested :
    tokenize nestedFormula = .ok nestedTokens ∧ parse callLimit nestedTokens = .ok nestedExpr ∧
      Derives .disjunction nestedTokens.dropLast nestedExpr := by
  have hText : tokenize nestedFormula = .ok nestedTokens := by
    have hTokens : (tokenize nestedFormula).toOption = some nestedTokens := by decide +kernel
    generalize tokenize nestedFormula = result at hTokens
    cases result with
    | error err => cases hTokens
    | ok tokens => exact congrArg Except.ok (Option.some.inj hTokens)
  have hParse : parse callLimit nestedTokens = .ok nestedExpr := rfl
  obtain ⟨body, hSplit, -, hIff, -⟩ := parse_exact hText (by rw [hParse]; rintro ⟨⟩)
  have hBody : nestedTokens.dropLast = body := by rw [hSplit, List.dropLast_concat]
  rw [hBody]
  exact ⟨hText, hParse, (hIff nestedExpr).1 hParse⟩

end TableFlow.Formula
