import TableFlow.Configuration.Decode
import TableFlow.Proofs.Cell.WholeText

/-!
# Bounds that are given as numbers

A filter keeps its values as texts, and its relations to numbers read them back. Values may be given
as numbers: they are written first. Nothing is lost on this way as long as the numbers are written
as numerals. The text is read as a number at the same place of the order, and the order is all that
the relations look at, so the filter compares rows with the numbers it was given.

## Main results

* `Filter.keeps_of_bounds`: a filter whose values are texts of numbers compares with the numbers.
* `Filter.numbers_survive_text`: whichever way the numbers are given.
-/

namespace TableFlow

namespace Binary64

variable {x x' y y' : Binary64}

theorem lt_congr (hx : x.rank = x'.rank) (hy : y.rank = y'.rank) : x.lt y = x'.lt y' := by
  simp only [lt, compareRanks, hx, hy]

theorem le_congr (hx : x.rank = x'.rank) (hy : y.rank = y'.rank) : x.le y = x'.le y' := by
  simp only [le, compareRanks, hx, hy]

end Binary64

/-- How an operator on numbers compares a number with the bounds of a filter, of which only
`between` has two. -/
def Operator.comparison? : Operator → Option (Binary64 → Binary64 → Binary64 → Bool)
  | .greater => some fun bound _ x => bound.lt x
  | .less => some fun bound _ x => x.lt bound
  | .greaterOrEqual => some fun bound _ x => bound.le x
  | .lessOrEqual => some fun bound _ x => x.le bound
  | .between => some fun lower upper x => lower.le x && x.le upper
  | _ => none

namespace Filter

open TableFlow.Configuration (written)

variable {operator : Operator} {compare : Binary64 → Binary64 → Binary64 → Bool}

/-- An operator on numbers takes its bounds from the texts of the filter. -/
theorem keepsCell_eq (hCompare : operator.comparison? = some compare) (value : String)
    (value2 : Option String) (cell : Cell) :
    keepsCell operator value value2 cell = relatesNumber (compare (Cell.numberOfText value)
      ((value2.map Cell.numberOfText).getD .nan)) cell := by
  cases operator <;> cases hCompare <;> rfl

/-- Bounds are compared by their places in the order. -/
theorem compare_congr (hCompare : operator.comparison? = some compare) {x x' y y' : Binary64}
    (hx : x.rank = x'.rank) (hy : operator = .between → y.rank = y'.rank) :
    compare x y = compare x' y' := by
  funext z
  cases operator <;> cases hCompare
  case greater => exact Binary64.lt_congr hx rfl
  case less => exact Binary64.lt_congr rfl hx
  case greaterOrEqual => exact Binary64.le_congr hx rfl
  case lessOrEqual => exact Binary64.le_congr rfl hx
  case between =>
    show (x.le z && z.le y) = (x'.le z && z.le y')
    rw [Binary64.le_congr hx rfl, Binary64.le_congr rfl (hy rfl)]

/-- The values that a filter with an operator on numbers is given: a number, and with `between` a
second one. With the other operators the second value is of no account. -/
structure NumberBounds (operator : Operator) (compare : Binary64 → Binary64 → Binary64 → Bool)
    (value value2 : Cell) (x y : Binary64) : Prop where
  comparison : operator.comparison? = some compare
  lower : value.WrittenWhole x
  second : HasValue (written Cell.toText value2)
  upper : operator = .between → value2.WrittenWhole y

/-- What a filter keeps of a second value that is given as a cell: its text, unless it is
missing. -/
def KeepsSecond (value2 : Cell) (kept : Option String) : Prop :=
  ∀ text, value2 ≠ .missing → value2.toText = .ok text → kept = some text

theorem keepsSecond_missing : KeepsSecond .missing none := fun _ hGiven => absurd rfl hGiven

theorem keepsSecond_text {value2 : Cell} {text : String} (h : value2.toText = .ok text) :
    KeepsSecond value2 (some text) := by
  intro other _ hOther
  cases h.symm.trans hOther
  rfl

/-! ## Values of filters as texts -/

/-- A value that is not nested too deeply is kept by its text. -/
theorem written_toText {cell : Cell} {text : String} (hNesting : cell.nesting ≤ callLimit)
    (hText : cell.toText = .ok text) : written Cell.toText cell = .ok text := by
  rw [written, if_neg (Nat.not_lt.2 hNesting), hText]
  rfl

theorem toText_of_written {cell : Cell} {text : String}
    (h : written Cell.toText cell = .ok text) : cell.toText = .ok text := by
  unfold written at h
  split at h
  · cases h
  · cases hText : cell.toText with
    | ok found =>
        rw [hText] at h
        cases h
        rfl
    | error fault =>
        rw [hText] at h
        cases h

theorem written_of_writtenWhole {cell : Cell} {x : Binary64} (h : cell.WrittenWhole x) :
    ∃ text, written Cell.toText cell = .ok text := by
  obtain ⟨text, -, hText, -⟩ := h.exists_text
  have hNesting : cell.nesting ≤ callLimit := by cases h <;> exact Nat.zero_le _
  exact ⟨text, written_toText hNesting hText⟩

section

variable {value value2 : Cell} {x y : Binary64}

/-- A filter whose values are the texts of numbers compares with the numbers. -/
theorem keeps_of_bounds {filter : FilterConfig}
    (h : NumberBounds operator compare value value2 x y)
    (hOperator : filter.operator? = some operator) (hValue : value.toText = .ok filter.value)
    (hSecond : KeepsSecond value2 filter.value2) (row : Row) :
    filter.keeps row = row.lookup filter.column >>= relatesNumber (compare x y) := by
  obtain ⟨text, place, hText, hRead, hPlace⟩ := h.lower.exists_text
  cases hText.symm.trans hValue
  rw [FilterConfig.keeps, hOperator]
  dsimp only
  simp only [keepsCell_eq h.comparison]
  rw [compare_congr h.comparison (hRead.trans hPlace.symm) fun hBetween => ?_]
  have hUpper := h.upper hBetween
  obtain ⟨text, place, hText, hRead, hPlace⟩ := hUpper.exists_text
  have hGiven : value2 ≠ .missing := by
    rintro rfl
    cases hUpper
  rw [hSecond text hGiven hText]
  exact hRead.trans hPlace.symm

/-- A record with names and values gives a filter. -/
theorem exists_ofFields {entries : List (String × Cell)} {column name : Cell} {text : String}
    (hColumn : entries.lookup "column" = some column)
    (hOperator : entries.lookup "operator" = some name)
    (hValue : entries.lookup "value" = some value) (hText : written Cell.toText value = .ok text)
    (hSecond : (entries.lookup "value2").getD .missing = value2)
    (hHas : HasValue (written Cell.toText value2)) :
    ∃ kept, FilterConfig.ofFields entries = .ok ⟨column, name, text, kept⟩ ∧
      KeepsSecond value2 kept := by
  obtain ⟨text2, hText2, -⟩ := hHas
  unfold FilterConfig.ofFields Configuration.require
  simp only [hColumn, hOperator, hValue, hSecond, Option.getD_some, hText]
  by_cases hMissing : value2 = .missing
  · subst hMissing
    exact ⟨none, rfl, keepsSecond_missing⟩
  · refine ⟨some text2, ?_, keepsSecond_text (toText_of_written hText2)⟩
    split
    · contradiction
    · rw [hText2]
      rfl

/-- Fields that are all known make the filter that is read from them. -/
theorem make_of_ofFields {entries : List (String × Cell)} {filter : FilterConfig}
    (hKnown : ∀ entry ∈ entries, entry.1 ∈ FilterConfig.fieldNames)
    (hFields : FilterConfig.ofFields entries = .ok filter) :
    FilterConfig.make entries = .ok filter := by
  unfold FilterConfig.make
  split
  · next name cell hFound =>
    have hUnknown := List.find?_some hFound
    exact absurd (hKnown _ (List.mem_of_find?_eq_some hFound)) (of_decide_eq_true hUnknown)
  · rw [hFields]

theorem setField_value (filter : FilterConfig) {text : String}
    (hText : written Cell.toText value = .ok text) :
    filter.setField "value" value = .ok { filter with value := text } := by
  show (written Cell.toText value >>= fun value => .ok { filter with value }) = _
  rw [hText]
  rfl

theorem exists_setField_value2 (filter : FilterConfig)
    (hHas : HasValue (written Cell.toText value2)) :
    ∃ kept, filter.setField "value2" value2 = .ok { filter with value2 := kept } ∧
      KeepsSecond value2 kept := by
  obtain ⟨text2, hText2, -⟩ := hHas
  by_cases hMissing : value2 = .missing
  · subst hMissing
    exact ⟨none, rfl, keepsSecond_missing⟩
  · refine ⟨some text2, ?_, keepsSecond_text (toText_of_written hText2)⟩
    simp only [FilterConfig.setField]
    rw [hText2]
    rfl

/-- Both values of a filter are changed by cells with texts. -/
theorem exists_update (filter : FilterConfig) {text : String}
    (hText : written Cell.toText value = .ok text)
    (hHas : HasValue (written Cell.toText value2)) :
    ∃ kept, filter.update [("value", value), ("value2", value2)] =
        .ok { filter with value := text, value2 := kept } ∧ KeepsSecond value2 kept := by
  obtain ⟨kept, hSet, hKept⟩ := exists_setField_value2 { filter with value := text } hHas
  refine ⟨kept, ?_, hKept⟩
  show (filter.setField "value" value >>= fun f => f.setField "value2" value2 >>= .ok) = _
  rw [setField_value filter hText]
  show ({ filter with value := text }.setField "value2" value2 >>= .ok) = _
  rw [hSet]
  rfl

end

/-- **Whole numbers survive as texts.** The text of a whole number that the format reaches, and that
of a binary64 number that is whole and small, is read as an equal number. So filters on numbers that
are given such numbers, by their fields, by a record or by a change, compare each row with these
numbers. Whole numbers with one text are one. -/
theorem numbers_survive_text :
    (∀ cell x, Cell.WrittenWhole cell x → cell.toNumber = .ok x ∧
      ∃ text y, cell.toText = .ok text ∧ (Cell.text text).toNumber = .ok y ∧ y.numEq x) ∧
    (∀ operator compare value value2 x y, NumberBounds operator compare value value2 x y →
      (∀ entries column name, entries.lookup "column" = some column →
        entries.lookup "operator" = some (.text name) → Operator.ofName? name = some operator →
        entries.lookup "value" = some value → (entries.lookup "value2").getD .missing = value2 →
        ∃ filter, FilterConfig.decode (.record entries) = .ok filter ∧
          ((∀ entry ∈ entries, entry.1 ∈ FilterConfig.fieldNames) →
            FilterConfig.make entries = .ok filter) ∧
          ∀ row, filter.keeps row = row.lookup column >>= relatesNumber (compare x y)) ∧
      ∀ old : FilterConfig, old.operator? = some operator →
        ∃ filter, old.update [("value", value), ("value2", value2)] = .ok filter ∧
          ∀ row, filter.keeps row = row.lookup old.column >>= relatesNumber (compare x y)) ∧
    ∀ m n text, (Cell.int m).toText = .ok text → (Cell.int n).toText = .ok text → m = n := by
  refine ⟨fun cell x h => ⟨h.toNumber_eq, ?_⟩, fun operator compare value value2 x y h =>
    ⟨fun entries column name hColumn hOperator hName hValue hSecond => ?_, fun old hName => ?_⟩,
    fun m n text hm hn => intNumeral_injective hm hn⟩
  · obtain ⟨text, place, hText, hRead, hPlace⟩ := h.exists_text
    exact ⟨text, _, hText, rfl, Binary64.numEq_of_rank hRead hPlace⟩
  · obtain ⟨text, hText⟩ := written_of_writtenWhole h.lower
    obtain ⟨kept, hFields, hKept⟩ :=
      exists_ofFields hColumn hOperator hValue hText hSecond h.second
    exact ⟨_, hFields, fun hKnown => make_of_ofFields hKnown hFields,
      keeps_of_bounds h hName (toText_of_written hText) hKept⟩
  · obtain ⟨text, hText⟩ := written_of_writtenWhole h.lower
    obtain ⟨kept, hUpdate, hKept⟩ := exists_update old hText h.second
    exact ⟨_, hUpdate, @keeps_of_bounds _ _ _ _ _ _ { old with value := text, value2 := kept }
      h hName (toText_of_written hText) hKept⟩

/-- The fields of a filter whose bounds are numbers of two kinds. -/
def agesBetween : List (String × Cell) := [
  ("column", .text "age"), ("operator", .text "between"), ("value", .int 25),
  ("value2", .float (Binary64.nearestInt 30))]

/-- A whole number between two numbers of the format, and two bounds of a range. -/
theorem numbers_survive_text_agesBetween :
    (∃ text y, (Cell.int (2 ^ 53 + 1)).toText = .ok text ∧ (Cell.text text).toNumber = .ok y ∧
      y.numEq (Binary64.nearestInt (2 ^ 53))) ∧
    ∃ filter, FilterConfig.make agesBetween = .ok filter ∧ ∀ row, filter.keeps row =
      relatesNumber (fun x => (Binary64.nearestInt 25).le x && x.le (Binary64.nearestInt 30))
        (row.get "age") := by
  obtain ⟨hNumbers, hFilters, -⟩ := numbers_survive_text
  constructor
  · have hRounded : Binary64.ofInt? (2 ^ 53 + 1) = some (Binary64.nearestInt (2 ^ 53)) := by
      decide +kernel
    exact (hNumbers _ _ (.int hRounded)).2
  · have hLower : Binary64.ofInt? 25 = some (Binary64.nearestInt 25) := by decide +kernel
    have hUpper : (Binary64.nearestInt 30).toInt? = some 30 := by decide +kernel
    have hSecond := Cell.WrittenWhole.float hUpper (by decide)
    obtain ⟨text, hText⟩ := written_of_writtenWhole hSecond
    obtain ⟨filter, -, hMake, hKeeps⟩ := (hFilters .between _ _ _ _ _
      ⟨rfl, .int hLower, ⟨text, hText, trivial⟩, fun _ => hSecond⟩).1
      agesBetween (.text "age") "between" rfl rfl rfl rfl rfl
    exact ⟨filter, hMake (by decide), hKeeps⟩

end Filter

end TableFlow
