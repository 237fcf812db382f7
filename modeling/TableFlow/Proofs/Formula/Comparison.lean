import TableFlow.Formula.Expr
import TableFlow.Formula.Value
import TableFlow.Proofs.Binary64.Relations
import TableFlow.Proofs.Cell.WholeNumbers
import TableFlow.Proofs.Reduction.Extremes
import TableFlow.Text.Order

/-!
# Comparisons belong together

Formulas compare values by eight symbols for six relations. Equality and order are computed apart,
each with its own cases for missing values, texts and booleans, before both fall back on numbers.
Still they are two readings of one thing: how the two values compare, if they do. Texts compare by
their characters, and other values by their numbers, where a value without a number compares with
nothing. Only equality knows of values that are the same without being in any order: missing values,
and equal booleans.

## Main results

* `order?_swap` and `isSome_order?`: how values compare, and which of them do.
* `compare_eq_verdict`: each comparison is told by that.
* `comparisons_cohere`: the laws that tie the comparisons together.
-/

namespace TableFlow.Formula

variable {left right : Cell}

/-! ## How values compare -/

/-- How two values compare, if they do: texts by their characters, others by their numbers. -/
def order? : Cell → Cell → Option Ordering
  | .text s, .text t => some (Text.compareCodePoints s.toList t.toList)
  | a, b => Binary64.order? a.number b.number

/-- Values that are the same without being in any order. -/
def areSame : Cell → Cell → Bool
  | .missing, .missing => true
  | .bool a, .bool b => a == b
  | _, _ => false

theorem isText_iff {cell : Cell} : isText cell ↔ ∃ s, cell = .text s := by
  cases cell <;> simp [isText]

theorem not_isText_and (h : ∀ s t, left = .text s → right = .text t → False) :
    ¬ (isText left ∧ isText right) := by
  rintro ⟨hLeft, hRight⟩
  obtain ⟨s, rfl⟩ := isText_iff.1 hLeft
  obtain ⟨t, rfl⟩ := isText_iff.1 hRight
  exact h s t rfl rfl

theorem order?_of_not_isText (h : ¬ (isText left ∧ isText right)) :
    order? left right = Binary64.order? left.number right.number := by
  unfold order?
  split
  · exact absurd ⟨rfl, rfl⟩ h
  · rfl

/-- Exchanging the values reverses the answer. -/
theorem order?_swap (left right : Cell) :
    order? right left = (order? left right).map Ordering.swap := by
  by_cases hTexts : isText left ∧ isText right
  · obtain ⟨⟨s, rfl⟩, ⟨t, rfl⟩⟩ := hTexts.imp isText_iff.1 isText_iff.1
    exact congrArg some Std.OrientedCmp.eq_swap
  · rw [order?_of_not_isText hTexts, order?_of_not_isText (fun h => hTexts h.symm)]
    exact Binary64.order?_swap _ _

theorem areSame_iff : areSame left right ↔
    left = .missing ∧ right = .missing ∨ ∃ b, left = .bool b ∧ right = .bool b := by
  unfold areSame
  split
  · exact iff_of_true rfl (.inl ⟨rfl, rfl⟩)
  · next a b =>
    rw [beq_iff_eq]
    constructor
    · rintro rfl
      exact .inr ⟨a, rfl, rfl⟩
    · rintro (⟨⟨⟩, -⟩ | ⟨c, ⟨⟩, ⟨⟩⟩)
      rfl
  · next hMissing hBool =>
    refine iff_of_false Bool.false_ne_true ?_
    rintro (⟨rfl, rfl⟩ | ⟨b, rfl, rfl⟩)
    · exact hMissing rfl rfl
    · exact hBool b b rfl rfl

theorem areSame_eq_false (hMissing : left = .missing → right = .missing → False)
    (hBools : ∀ a b, left = .bool a → right = .bool b → False) : areSame left right = false := by
  rw [Bool.eq_false_iff, ne_eq, areSame_iff]
  rintro (⟨rfl, rfl⟩ | ⟨b, rfl, rfl⟩)
  · exact hMissing rfl rfl
  · exact hBools b b rfl rfl

theorem areSame_comm (left right : Cell) : areSame right left = areSame left right := by
  rw [Bool.eq_iff_iff, areSame_iff, areSame_iff, and_comm]
  simp only [and_comm]

/-- Two values compare if both are texts or both give a number. -/
theorem isSome_order? : (order? left right).isSome ↔
    (isText left ∧ isText right) ∨ (left.isNumeric ∧ right.isNumeric) := by
  by_cases hTexts : isText left ∧ isText right
  · obtain ⟨⟨s, rfl⟩, ⟨t, rfl⟩⟩ := hTexts.imp isText_iff.1 isText_iff.1
    exact iff_of_true rfl (.inl hTexts)
  · rw [order?_of_not_isText hTexts, Binary64.isSome_order?, Cell.isNumeric_eq, Cell.isNumeric_eq,
      Bool.and_eq_true, or_iff_right hTexts]

/-- Values that are the same in spite of it are in no order. -/
theorem order?_of_areSame (h : areSame left right) : order? left right = none := by
  rcases areSame_iff.1 h with ⟨rfl, rfl⟩ | ⟨b, rfl, rfl⟩
  · rfl
  · rfl

theorem eq_missing_of_isMissing {cell : Cell} (h : cell.isMissing) : cell = .missing := by
  cases cell with
  | missing => rfl
  | _ => cases h

/-- A missing value is in no order. -/
theorem order?_of_isMissing (h : left.isMissing || right.isMissing) : order? left right = none := by
  rcases Bool.or_eq_true_iff.1 h with h | h
  · rw [eq_missing_of_isMissing h]
    rfl
  · rw [eq_missing_of_isMissing h, order?_swap]
    rfl

/-- A relation of order holds between two numbers that compare as it asks. -/
theorem holds_eq (relation : OrderRelation) (x y : Binary64) :
    relation.holds x y = (Binary64.order? x y).any relation.holdsFor := by
  cases relation with
  | less => exact Binary64.lt_eq x y
  | greater =>
      show y.lt x = _
      rw [Binary64.lt_eq, Binary64.order?_swap x y, Option.any_map]
      simp only [Ordering.isLT_swap]
      rfl
  | atMost => exact Binary64.le_eq x y
  | atLeast =>
      show y.le x = _
      rw [Binary64.le_eq, Binary64.order?_swap x y, Option.any_map]
      simp only [Ordering.isLE_swap]
      rfl

/-! ## The two computations -/

section

variable (hLeft : HasValue left.toNumber) (hRight : HasValue right.toNumber)

include hLeft hRight

theorem areEqual_eq :
    areEqual left right = .ok (areSame left right || (order? left right).any (·.isEq)) := by
  unfold areEqual
  split
  · cases right <;> rfl
  · next hMissing =>
    rw [areSame_eq_false (fun h _ => hMissing h) (by simp), order?_swap]
    rfl
  · next s t =>
    show Except.ok (s == t) = .ok (Text.compareCodePoints s.toList t.toList).isEq
    rw [Except.ok.injEq, Bool.eq_iff_iff, beq_iff_eq, Ordering.isEq_iff_eq_eq,
      Std.LawfulEqCmp.compare_eq_iff_eq, String.toList_inj]
  · next a b =>
    show Except.ok (a == b) = .ok ((a == b) || false)
    rw [Bool.or_false]
  · next hMissing hMissing' hTexts hBools =>
    rw [areSame_eq_false (fun h _ => hMissing h) hBools,
      order?_of_not_isText (not_isText_and hTexts), Cell.toNumber_eq_number hLeft,
      Cell.toNumber_eq_number hRight, Bool.false_or, ← Binary64.numEq_eq]
    rfl

theorem inOrder_eq {symbol : String} {relation : OrderRelation}
    (hSymbol : OrderRelation.ofSymbol? symbol = some relation) :
    inOrder symbol left right = .ok ((order? left right).any relation.holdsFor) := by
  unfold inOrder
  split
  · next hMissing =>
    rw [order?_of_isMissing hMissing]
    rfl
  · split
    · simp only [hSymbol]
      rfl
    · next hTexts =>
      rw [Cell.toNumber_eq_number hLeft, Cell.toNumber_eq_number hRight,
        order?_of_not_isText (not_isText_and hTexts), ← holds_eq]
      simp only [lift, Except.mapError, bind, Except.bind, hSymbol]

/-! ## The eight symbols -/

/-- What a comparison tells of two values. -/
def verdict (left right : Cell) (symbol : String) : Bool :=
  match OrderRelation.ofSymbol? symbol with
  | some relation => (order? left right).any relation.holdsFor
  | none =>
      let equal := areSame left right || (order? left right).any (·.isEq)
      if symbol = "=" ∨ symbol = "==" then equal else !equal

/-- Each comparison is told by how the two values compare, and by whether they are the same. -/
theorem compare_eq_verdict {symbol : String} (hSymbol : symbol ∈ comparisonSymbols) :
    compare symbol left right = .ok (verdict left right symbol) := by
  have hEqual := areEqual_eq hLeft hRight
  simp only [comparisonSymbols, List.mem_cons, List.not_mem_nil, or_false] at hSymbol
  rcases hSymbol with rfl | rfl | rfl | rfl | rfl | rfl | rfl | rfl
  · exact congrArg lift hEqual
  · exact congrArg lift hEqual
  · exact @inOrder_eq _ _ hLeft hRight "<" .less rfl
  · exact @inOrder_eq _ _ hLeft hRight ">" .greater rfl
  · exact @inOrder_eq _ _ hLeft hRight "<=" .atMost rfl
  · exact @inOrder_eq _ _ hLeft hRight ">=" .atLeast rfl
  · exact congrArg (fun result => lift result >>= fun equal => .ok !equal) hEqual
  · exact congrArg (fun result => lift result >>= fun equal => .ok !equal) hEqual

end

/-- The laws that tie together what the comparisons of two values tell, and those of the values
exchanged. -/
structure Coherent (left right : Cell) (tells tellsExchanged : String → Bool) : Prop where
  same_equal : tells "==" = tells "="
  same_unequal : tells "<>" = tells "!="
  unequal : tells "!=" = !tells "="
  equal_symm : tellsExchanged "=" = tells "="
  less : tellsExchanged ">" = tells "<"
  atMost : tellsExchanged ">=" = tells "<="
  atMostOne : [tells "<", tells "=", tells ">"].count true ≤ 1
  exactlyOne : (isText left ∧ isText right) ∨ (left.isNumeric ∧ right.isNumeric) →
    [tells "<", tells "=", tells ">"].count true = 1
  /-- Missing values and booleans can be the same without being in the order. -/
  atMost_iff : ¬ (left.isMissing ∧ right.isMissing) →
    ¬ (∃ a b, left = .bool a ∧ right = .bool b) → tells "<=" = (tells "<" || tells "=")

theorem areSame_of_order? {o : Ordering} (h : order? left right = some o) :
    areSame left right = false := by
  rw [Bool.eq_false_iff]
  intro hSame
  rw [order?_of_areSame hSame] at h
  cases h

theorem coherent_verdict (left right : Cell) :
    Coherent left right (verdict left right) (verdict right left) := by
  have hEqual (a b : Cell) :
      verdict a b "=" = (areSame a b || (order? a b).any (·.isEq)) := rfl
  have hLess (a b : Cell) : verdict a b "<" = (order? a b).any (·.isLT) := rfl
  have hGreater (a b : Cell) : verdict a b ">" = (order? a b).any (·.isGT) := rfl
  have hAtMost (a b : Cell) : verdict a b "<=" = (order? a b).any (·.isLE) := rfl
  have hAtLeast (a b : Cell) : verdict a b ">=" = (order? a b).any (·.isGE) := rfl
  have hExchanged := order?_swap left right
  constructor
  case same_equal => rfl
  case same_unequal => rfl
  case unequal => rfl
  case equal_symm =>
    rw [hEqual, hEqual, areSame_comm, hExchanged, Option.any_map]
    simp only [Ordering.isEq_swap]
  case less =>
    rw [hGreater, hLess, hExchanged, Option.any_map]
    simp only [Ordering.isGT_swap]
  case atMost =>
    rw [hAtLeast, hAtMost, hExchanged, Option.any_map]
    simp only [Ordering.isGE_swap]
  case atMostOne =>
    rw [hLess, hEqual, hGreater]
    cases hOrder : order? left right with
    | none => cases areSame left right <;> decide
    | some o =>
        rw [areSame_of_order? hOrder]
        cases o <;> decide
  case exactlyOne =>
    intro hKinds
    obtain ⟨o, hOrder⟩ := Option.isSome_iff_exists.1 (isSome_order?.2 hKinds)
    rw [hLess, hEqual, hGreater, areSame_of_order? hOrder, hOrder]
    cases o <;> decide
  case atMost_iff =>
    intro hMissing hBools
    have hApart : areSame left right = false := by
      refine areSame_eq_false ?_ fun a b ha hb => hBools ⟨a, b, ha, hb⟩
      rintro rfl rfl
      exact hMissing ⟨rfl, rfl⟩
    rw [hAtMost, hLess, hEqual, hApart]
    cases order? left right with
    | none => rfl
    | some o => cases o <;> rfl

/-- **The comparisons cohere**, if whole numbers fit the format. Any two values have a verdict for
each of the eight symbols, and so have they exchanged. There are six relations, of which one is the
negation of equality. Equality is symmetric, and exchanging the values reverses the order. At most
one of less, equal and greater holds, and exactly one of texts and of values that give numbers. At
most is less or equal, unless the values are missing or booleans. -/
theorem comparisons_cohere
    (hFits : ∀ n, left = .int n ∨ right = .int n → (Binary64.ofInt? n).isSome) :
    ∃ tells tellsExchanged : String → Bool, (∀ symbol ∈ comparisonSymbols,
      compare symbol left right = .ok (tells symbol) ∧
        compare symbol right left = .ok (tellsExchanged symbol)) ∧
      Coherent left right tells tellsExchanged := by
  have hLeft : HasValue left.toNumber := Cell.hasValue_toNumber_of_fits fun n h => hFits n (.inl h)
  have hRight : HasValue right.toNumber :=
    Cell.hasValue_toNumber_of_fits fun n h => hFits n (.inr h)
  refine ⟨verdict left right, verdict right left, fun symbol hSymbol => ⟨?_, ?_⟩,
    coherent_verdict left right⟩
  · exact compare_eq_verdict hLeft hRight hSymbol
  · exact compare_eq_verdict hRight hLeft hSymbol

/-- A text that is compared with a whole number by its number, to which the whole number is
rounded: they are equal, so neither is less, and each is at most the other. -/
theorem comparisons_cohere_roundedText :
    compare "<" (.text " 9007199254740992 ") (.int 9007199254740993) = .ok false ∧
      compare ">" (.text " 9007199254740992 ") (.int 9007199254740993) = .ok false ∧
      compare "<=" (.text " 9007199254740992 ") (.int 9007199254740993) = .ok true ∧
      compare ">=" (.int 9007199254740993) (.text " 9007199254740992 ") = .ok true := by
  have hFits : (Binary64.ofInt? 9007199254740993).isSome := by decide +kernel
  have hNumeric : (Cell.text " 9007199254740992 ").isNumeric ∧
      (Cell.int 9007199254740993).isNumeric := by
    decide +kernel
  have hEqual : compare "=" (.text " 9007199254740992 ") (.int 9007199254740993) = .ok true := by
    decide +kernel
  obtain ⟨tells, tellsExchanged, hTells, hCoherent⟩ :=
    @comparisons_cohere (.text " 9007199254740992 ") (.int 9007199254740993) <| by
      rintro n (hText | hWhole)
      · cases hText
      · rw [← Cell.int.inj hWhole]
        exact hFits
  have hSame : tells "=" = true := Except.ok.inj ((hTells "=" (by decide)).1.symm.trans hEqual)
  have hOne := hCoherent.exactlyOne (.inr hNumeric)
  have hAtMost := hCoherent.atMost_iff (by simp [Cell.isMissing]) (by simp)
  rw [hSame] at hOne hAtMost
  have hOthers : tells "<" = false ∧ tells ">" = false := by
    cases hLess : tells "<" <;> cases hGreater : tells ">" <;> simp_all
  rw [Bool.or_true] at hAtMost
  refine ⟨?_, ?_, ?_, ?_⟩
  · rw [(hTells "<" (by decide)).1, hOthers.1]
  · rw [(hTells ">" (by decide)).1, hOthers.2]
  · rw [(hTells "<=" (by decide)).1, hAtMost]
  · rw [(hTells ">=" (by decide)).2, hCoherent.atMost, hAtMost]

end TableFlow.Formula
