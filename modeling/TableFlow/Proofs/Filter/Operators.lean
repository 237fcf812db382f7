import TableFlow.Proofs.Binary64.Relations
import TableFlow.Proofs.Cell.WholeNumbers
import TableFlow.Proofs.Filter.Bounds
import TableFlow.Proofs.Filter.Literal
import TableFlow.Proofs.Reduction.Extremes

/-!
# The operators of filters belong together

A filter looks at a cell in one of three ways: at its text, at its number, or at whether it is there
at all. Operators that look in the same way obey common laws. Those on numbers ask how the number of
the cell and the bound compare; they are all false if one of the two is no number, so that none of
them is the negation of another one there. Those on texts ask for an occurrence of the value that is
the more special the more ends of the text it takes up.

## Main results

* `Filter.keeps_of_comparison?`: a filter with an operator on numbers compares the number of a cell.
* `Filter.numeric_cohere` and `Filter.keeps_eq_false`: with numbers on both sides, and without.
* `Filter.operators_cohere`: the laws that tie all operators together.
-/

namespace TableFlow.Filter

variable {row : Row} {column : String}

/-! ## Operators on numbers -/

section

variable (hNumber : HasValue (row.get column).toNumber)

include hNumber

/-- A filter with an operator on numbers compares the number of a cell with its bounds. -/
theorem keeps_of_comparison? {operator : Operator}
    {compare : Binary64 → Binary64 → Binary64 → Bool}
    (hCompare : operator.comparison? = some compare) {name : String}
    (hName : Operator.ofName? name = some operator) (value : String) (value2 : Option String) :
    (Filter.mk column name value value2).keeps row =
      .ok (compare (Cell.numberOfText value) ((value2.map Cell.numberOfText).getD .nan)
        (row.get column).number) := by
  unfold keeps
  simp only [hName]
  rw [keepsCell_eq hCompare, relatesNumber, Cell.toNumber_eq_number hNumber]
  rfl

/-- The four comparisons are told by how the number and the bound compare. -/
theorem keeps_of_order? (value : String) (value2 : Option String) {o? : Option Ordering}
    (hOrder : Binary64.order? (row.get column).number (Cell.numberOfText value) = o?) :
    (Filter.mk column "lt" value value2).keeps row = .ok (o?.any (·.isLT)) ∧
      (Filter.mk column "gt" value value2).keeps row = .ok (o?.any (·.isGT)) ∧
      (Filter.mk column "lte" value value2).keeps row = .ok (o?.any (·.isLE)) ∧
      (Filter.mk column "gte" value value2).keeps row = .ok (o?.any (·.isGE)) := by
  have hReversed : Binary64.order? (Cell.numberOfText value) (row.get column).number =
      o?.map Ordering.swap := by
    rw [Binary64.order?_swap (row.get column).number, hOrder]
  refine ⟨?_, ?_, ?_, ?_⟩
  · rw [@keeps_of_comparison? _ _ hNumber .less _ rfl _ rfl, Binary64.lt_eq, hOrder]
  · rw [@keeps_of_comparison? _ _ hNumber .greater _ rfl _ rfl, Binary64.lt_eq, hReversed,
      Option.any_map]
    simp only [Ordering.isLT_swap]
  · rw [@keeps_of_comparison? _ _ hNumber .lessOrEqual _ rfl _ rfl, Binary64.le_eq, hOrder]
  · rw [@keeps_of_comparison? _ _ hNumber .greaterOrEqual _ rfl _ rfl, Binary64.le_eq, hReversed,
      Option.any_map]
    simp only [Ordering.isLE_swap]

/-- With numbers on both sides, one of less, greater and both not is true, and the other two
operators are negations. -/
theorem numeric_cohere {value : String} (hCell : (row.get column).isNumeric)
    (hValue : (Cell.text value).isNumeric) (value2 : Option String) :
    ∃ less greater : Bool, [less, greater, !less && !greater].count true = 1 ∧
      (Filter.mk column "lt" value value2).keeps row = .ok less ∧
      (Filter.mk column "gt" value value2).keeps row = .ok greater ∧
      (Filter.mk column "gte" value value2).keeps row = .ok (!less) ∧
      (Filter.mk column "lte" value value2).keeps row = .ok (!greater) := by
  rw [Cell.isNumeric_eq] at hCell hValue
  have hSome : (Binary64.order? (row.get column).number (Cell.numberOfText value)).isSome := by
    rw [Binary64.isSome_order?, hCell]
    exact hValue
  obtain ⟨o, hOrder⟩ := Option.isSome_iff_exists.1 hSome
  obtain ⟨hLess, hGreater, hAtMost, hAtLeast⟩ := keeps_of_order? hNumber value value2 hOrder
  refine ⟨o.isLT, o.isGT, ?_, hLess, hGreater, ?_, ?_⟩
  · cases o <;> decide
  · rw [hAtLeast]
    cases o <;> rfl
  · rw [hAtMost]
    cases o <;> rfl

/-- Without a number on one side all comparisons are false. -/
theorem keeps_eq_false {value : String}
    (h : ¬ ((row.get column).isNumeric ∧ (Cell.text value).isNumeric)) {name : String}
    (hName : name ∈ ["lt", "gt", "lte", "gte"]) (value2 : Option String) :
    (Filter.mk column name value value2).keeps row = .ok false := by
  have hNone : Binary64.order? (row.get column).number (Cell.numberOfText value) = none := by
    rw [Cell.isNumeric_eq, Cell.isNumeric_eq, ← Bool.and_eq_true] at h
    rw [← Option.not_isSome_iff_eq_none, Binary64.isSome_order?]
    exact h
  obtain ⟨hLess, hGreater, hAtMost, hAtLeast⟩ := keeps_of_order? hNumber value value2 hNone
  simp only [List.mem_cons, List.not_mem_nil, or_false] at hName
  rcases hName with rfl | rfl | rfl | rfl
  · exact hLess
  · exact hGreater
  · exact hAtMost
  · exact hAtLeast

/-- A range is what its two bounds keep. -/
theorem keeps_between_iff (lower upper : String) (value2 value2' : Option String) :
    (Filter.mk column "between" lower (some upper)).keeps row = .ok true ↔
      (Filter.mk column "gte" lower value2).keeps row = .ok true ∧
        (Filter.mk column "lte" upper value2').keeps row = .ok true := by
  rw [@keeps_of_comparison? _ _ hNumber .between _ rfl _ rfl,
    @keeps_of_comparison? _ _ hNumber .greaterOrEqual _ rfl _ rfl,
    @keeps_of_comparison? _ _ hNumber .lessOrEqual _ rfl _ rfl, Except.ok.injEq, Except.ok.injEq,
    Except.ok.injEq, Bool.and_eq_true]
  rfl

/-- A range without an upper bound keeps nothing. -/
theorem keeps_between_none (lower : String) :
    (Filter.mk column "between" lower none).keeps row = .ok false := by
  have hNaN : (row.get column).number.le .nan = false := by
    rw [Binary64.le_eq, Binary64.order?_swap .nan]
    rfl
  rw [@keeps_of_comparison? _ _ hNumber .between _ rfl _ rfl, Except.ok.injEq]
  show (_ && (row.get column).number.le .nan) = false
  rw [hNaN, Bool.and_false]

end

/-! ## Operators on texts -/

section

variable {value : String} {value2 : Option String}

/-- A filter on texts that keeps a row has found a text. -/
theorem exists_toText_of_keeps {operator : Operator} {name : String}
    (relation : List Char → List Char → Bool) (hName : Operator.ofName? name = some operator)
    (hRelation : ∀ cell, keepsCell operator value value2 cell = relatesText relation value cell)
    (h : (Filter.mk column name value value2).keeps row = .ok true) :
    ∃ text, (row.get column).toText = .ok text := by
  unfold keeps at h
  simp only [hName] at h
  rw [hRelation] at h
  obtain ⟨text, hText, -⟩ := bind_eq_ok_iff.1 h
  exact ⟨text, hText⟩

/-- An equal text begins and ends with the value. -/
theorem keeps_ends_of_equals (h : (Filter.mk column "equals" value value2).keeps row = .ok true) :
    (Filter.mk column "startsWith" value value2).keeps row = .ok true ∧
      (Filter.mk column "endsWith" value value2).keeps row = .ok true := by
  obtain ⟨text, hText⟩ := exists_toText_of_keeps (fun v t => t == v) rfl (fun _ => rfl) h
  rw [keeps_equals_iff hText] at h
  rw [keeps_startsWith_iff hText, keeps_endsWith_iff hText, h]
  exact ⟨List.prefix_rfl, List.suffix_rfl⟩

/-- A text that begins or ends with the value holds it. -/
theorem keeps_contains_of_end
    (h : (Filter.mk column "startsWith" value value2).keeps row = .ok true ∨
      (Filter.mk column "endsWith" value value2).keeps row = .ok true) :
    (Filter.mk column "contains" value value2).keeps row = .ok true := by
  rcases h with h | h
  · obtain ⟨text, hText⟩ := exists_toText_of_keeps (fun v t => v.isPrefixOf t) rfl (fun _ => rfl) h
    rw [keeps_startsWith_iff hText] at h
    exact (keeps_contains_iff hText value value2).2 h.isInfix
  · obtain ⟨text, hText⟩ := exists_toText_of_keeps (fun v t => v.isSuffixOf t) rfl (fun _ => rfl) h
    rw [keeps_endsWith_iff hText] at h
    exact (keeps_contains_iff hText value value2).2 h.isInfix

end

/-! ## Operators on presence -/

/-- Empty cells are false in the sense of a condition. -/
theorem isFalse_of_isEmpty {cell : Cell} (h : cell.isEmpty) : cell.isFalse := by
  cases cell with
  | missing => rfl
  | text s => exact h
  | _ => cases h

/-- One of the two filters on presence keeps the row, and does so for each value they are given. -/
theorem presence_cohere (row : Row) (column : String) :
    ∃ isEmpty : Bool, ((row.get column).isEmpty → isEmpty) ∧ ∀ value value2,
      (Filter.mk column "isEmpty" value value2).keeps row = .ok isEmpty ∧
      (Filter.mk column "isNotEmpty" value value2).keeps row = .ok (!isEmpty) := by
  refine ⟨(row.get column).isNaN || (row.get column).isFalse, fun hEmpty => ?_,
    fun value value2 => ⟨rfl, rfl⟩⟩
  rw [isFalse_of_isEmpty hEmpty, Bool.or_true]

/-! ## All operators -/

/-- The laws that tie together what the filters on a column decide about a row. The values are any
texts, and so are the second values of the operators other than `between`. -/
structure Coherent (row : Row) (column : String) : Prop where
  between_iff : ∀ lower upper value2 value2',
    (Filter.mk column "between" lower (some upper)).keeps row = .ok true ↔
      (Filter.mk column "gte" lower value2).keeps row = .ok true ∧
        (Filter.mk column "lte" upper value2').keeps row = .ok true
  between_none : ∀ lower, (Filter.mk column "between" lower none).keeps row = .ok false
  numeric : ∀ value value2, (row.get column).isNumeric → (Cell.text value).isNumeric →
    ∃ less greater : Bool, [less, greater, !less && !greater].count true = 1 ∧
      (Filter.mk column "lt" value value2).keeps row = .ok less ∧
      (Filter.mk column "gt" value value2).keeps row = .ok greater ∧
      (Filter.mk column "gte" value value2).keeps row = .ok (!less) ∧
      (Filter.mk column "lte" value value2).keeps row = .ok (!greater)
  not_numeric : ∀ value value2, ¬ ((row.get column).isNumeric ∧ (Cell.text value).isNumeric) →
    ∀ name ∈ ["lt", "gt", "lte", "gte"],
      (Filter.mk column name value value2).keeps row = .ok false
  equals : ∀ value value2, (Filter.mk column "equals" value value2).keeps row = .ok true →
    (Filter.mk column "startsWith" value value2).keeps row = .ok true ∧
      (Filter.mk column "endsWith" value value2).keeps row = .ok true
  contains : ∀ value value2, (Filter.mk column "startsWith" value value2).keeps row = .ok true ∨
      (Filter.mk column "endsWith" value value2).keeps row = .ok true →
    (Filter.mk column "contains" value value2).keeps row = .ok true
  presence : ∃ isEmpty : Bool, ((row.get column).isEmpty → isEmpty) ∧ ∀ value value2,
    (Filter.mk column "isEmpty" value value2).keeps row = .ok isEmpty ∧
    (Filter.mk column "isNotEmpty" value value2).keeps row = .ok (!isEmpty)

/-- **The operators of filters cohere**, if a whole number in the column fits the format. -/
theorem operators_cohere
    (hFits : ∀ n, row.get column = .int n → (Binary64.ofInt? n).isSome) : Coherent row column := by
  have hNumber : HasValue (row.get column).toNumber := Cell.hasValue_toNumber_of_fits hFits
  exact {
    between_iff := keeps_between_iff hNumber
    between_none := keeps_between_none hNumber
    numeric := fun value value2 hCell hValue => numeric_cohere hNumber hCell hValue value2
    not_numeric := fun value value2 h name hName => keeps_eq_false hNumber h hName value2
    equals := fun value value2 => keeps_ends_of_equals
    contains := fun value value2 => keeps_contains_of_end
    presence := presence_cohere row column }

/-- A text with a number that is where a bound is: it is within the range from the bound to the
bound. Next to a value that is no number it is neither in an order nor out of it. -/
theorem operators_cohere_numberText :
    (Filter.mk "v" "between" "2.5e1" (some "2.5e1")).keeps (rowOfText "v" " 25 ") = .ok true ∧
      (Filter.mk "v" "gt" "x" none).keeps (rowOfText "v" " 25 ") = .ok false ∧
      (Filter.mk "v" "lte" "x" none).keeps (rowOfText "v" " 25 ") = .ok false := by
  have hCell : (rowOfText "v" " 25 ").get "v" = .text " 25 " := rfl
  have hCoherent : Coherent (rowOfText "v" " 25 ") "v" := operators_cohere fun n hWhole => by
    rw [hCell] at hWhole
    cases hWhole
  have hNeither : (Filter.mk "v" "lt" "2.5e1" none).keeps (rowOfText "v" " 25 ") = .ok false ∧
      (Filter.mk "v" "gt" "2.5e1" none).keeps (rowOfText "v" " 25 ") = .ok false := by
    decide +kernel
  obtain ⟨less, greater, -, hLess, hGreater, hAtLeast, hAtMost⟩ :=
    hCoherent.numeric "2.5e1" none (by decide +kernel) (by decide +kernel)
  cases hLess.symm.trans hNeither.1
  cases hGreater.symm.trans hNeither.2
  have hOther := hCoherent.not_numeric "x" none (by decide +kernel)
  exact ⟨(hCoherent.between_iff _ _ none none).2 ⟨hAtLeast, hAtMost⟩, hOther "gt" (by decide),
    hOther "lte" (by decide)⟩

end TableFlow.Filter
