import Mathlib.Data.Set.Card
import TableFlow.Proofs.Cell.WholeNumbers
import TableFlow.Proofs.Reduction.Extremes
import TableFlow.Proofs.Stage.Success

/-!
# What a profile tells of a column

A profile is made in passes over the cells of a column that each look at other cells: at all of
them, at those that are not empty, at the first ones of these, at those with a finite number. What
it says is said here of the rows themselves. Missing values and values make up the rows, texts are
counted without repetitions, and the extremes are met in the column with all others between them.

This leaves nothing of a profile open but its type and the signs of zeros. The type is told from a
sample, and a sample that holds all values does not change with the order of the rows.

## Main results

* `Profile.describes_of_ofColumn`: what a profile says holds of the column.
* `Profile.Describes.same`: profiles of one type that describe one column are the same.
* `inferType_congr_sample` and `inferType_congr_of_mem_iff`: what a type depends on.
* `Profile.ofColumn_exact`: all of this, for rows whose whole numbers fit the format.
-/

namespace TableFlow

open Binary64 (rank)

/-! ## The values of a column -/

/-- The cells of a column that are not empty, in order. -/
def presentCells (rows : List Row) (column : String) : List Cell :=
  (rows.map (·.get column)).filter (!·.isEmpty)

/-- The texts of the cells of a column that are not empty. -/
def columnTexts (rows : List Row) (column : String) : Set String :=
  {text | ∃ row ∈ rows, (row.get column).isEmpty = false ∧ (row.get column).toText = .ok text}

/-- The finite numbers that the cells of a column give. -/
def columnFiniteNumbers (rows : List Row) (column : String) : Set Binary64 :=
  {x | x.isFinite ∧ ∃ row ∈ rows, (row.get column).toNumber = .ok x}

section

variable {rows rows' : List Row} {column : String}

theorem mem_presentCells {cell : Cell} : cell ∈ presentCells rows column ↔
    ∃ row ∈ rows, (row.get column).isEmpty = false ∧ row.get column = cell := by
  simp only [presentCells, List.mem_filter, List.mem_map, Bool.not_eq_true']
  constructor
  · rintro ⟨⟨row, hRow, rfl⟩, hPresent⟩
    exact ⟨row, hRow, hPresent, rfl⟩
  · rintro ⟨row, hRow, hPresent, rfl⟩
    exact ⟨⟨row, hRow, rfl⟩, hPresent⟩

theorem length_presentCells (rows : List Row) (column : String) :
    (presentCells rows column).length = rows.countP fun row => !(row.get column).isEmpty := by
  rw [presentCells, ← List.countP_eq_length_filter, List.countP_map]
  rfl

theorem presentCells_perm (h : rows'.Perm rows) :
    (presentCells rows' column).Perm (presentCells rows column) :=
  (h.map _).filter _

theorem converts_of_mem_presentCells (h : ∀ row ∈ rows, row.Converts) :
    ∀ cell ∈ presentCells rows column, cell.Converts := by
  intro cell hCell
  obtain ⟨row, hRow, -, rfl⟩ := mem_presentCells.1 hCell
  exact h row hRow column

theorem columnTexts_eq {texts : List String}
    (h : (presentCells rows column).mapM Cell.toText = .ok texts) :
    columnTexts rows column = {text | text ∈ texts} := by
  ext text
  rw [Set.mem_ofPred_eq, mem_of_mapM h]
  constructor
  · rintro ⟨row, hRow, hPresent, hText⟩
    exact ⟨row.get column, mem_presentCells.2 ⟨row, hRow, hPresent, rfl⟩, hText⟩
  · rintro ⟨cell, hCell, hText⟩
    obtain ⟨row, hRow, hPresent, rfl⟩ := mem_presentCells.1 hCell
    exact ⟨row, hRow, hPresent, hText⟩

theorem Cell.toNumber_of_isEmpty {cell : Cell} (h : cell.isEmpty = true) :
    cell.toNumber = .ok .nan := by
  cases cell with
  | missing => rfl
  | text s =>
      have hEmpty : s = "" := by simpa [isEmpty] using h
      rw [hEmpty]
      rfl
  | _ => cases h

/-- Empty cells give no numbers, so nothing is lost with them. -/
theorem columnFiniteNumbers_eq {xs : List Binary64}
    (h : (presentCells rows column).mapM Cell.toNumber = .ok xs) :
    columnFiniteNumbers rows column = {x | x ∈ xs.filter Binary64.isFinite} := by
  ext x
  rw [Set.mem_ofPred_eq, List.mem_filter, mem_of_mapM h, and_comm, columnFiniteNumbers]
  refine and_congr_right fun hFinite => ?_
  constructor
  · rintro ⟨row, hRow, hNumber⟩
    refine ⟨row.get column, mem_presentCells.2 ⟨row, hRow, ?_, rfl⟩, hNumber⟩
    by_contra hEmpty
    rw [Cell.toNumber_of_isEmpty (Bool.not_eq_false _ ▸ hEmpty)] at hNumber
    cases hNumber
    cases hFinite
  · rintro ⟨cell, hCell, hNumber⟩
    obtain ⟨row, hRow, -, rfl⟩ := mem_presentCells.1 hCell
    exact ⟨row, hRow, hNumber⟩

end

/-! ## Types -/

section

variable {values values' : List Cell}

/-- A type depends on the sample only. -/
theorem inferType_congr_sample (h : values.take sampleSize = values'.take sampleSize) :
    inferType values = inferType values' := by
  have hEmpty : values.isEmpty = values'.isEmpty := by
    rw [Bool.eq_iff_iff, List.isEmpty_iff, List.isEmpty_iff]
    have hNone : ∀ cells : List Cell, cells = [] ↔ cells.take sampleSize = [] := by
      simp [sampleSize]
    rw [hNone values, hNone values', h]
  unfold inferType
  rw [h, hEmpty]

/-- The type of values that all belong to the sample does not depend on their order. -/
theorem inferType_congr_of_mem_iff (hConverts : ∀ cell ∈ values, cell.Converts)
    (hSample : values.length ≤ sampleSize) (hSample' : values'.length ≤ sampleSize)
    (hMem : ∀ cell, cell ∈ values ↔ cell ∈ values') : inferType values = inferType values' := by
  have hEmpty : values.isEmpty = values'.isEmpty := by
    rw [Bool.eq_iff_iff]
    simp only [List.isEmpty_iff, List.eq_nil_iff_forall_not_mem, hMem]
  have hNumbers : values.allM Cell.givesFiniteNumber = values'.allM Cell.givesFiniteNumber :=
    allM_congr_of_mem_iff (fun cell hCell => (hConverts cell hCell).2.bind fun _ _ => .ok trivial)
      hMem
  have hBooleans : values.allM Cell.givesBoolean = values'.allM Cell.givesBoolean :=
    allM_congr_of_mem_iff (fun cell hCell => (hConverts cell hCell).hasValue_givesBoolean) hMem
  have hDates : (values.all fun cell => cell.toDate?.isSome) =
      values'.all fun cell => cell.toDate?.isSome := by
    rw [Bool.eq_iff_iff]
    simp only [List.all_eq_true, hMem]
  unfold inferType
  simp only [List.take_of_length_le hSample, List.take_of_length_le hSample', hEmpty, hNumbers,
    hBooleans, hDates]

theorem ne_nil_of_inferType {type : ColumnType} (h : inferType values = .ok type)
    (hType : type ≠ .empty) : values ≠ [] := by
  rintro rfl
  cases h
  exact hType rfl

/-- Values of the type of numbers include a finite number. -/
theorem exists_isFinite_of_inferType (h : inferType values = .ok .number) :
    ∃ cell ∈ values, ∃ x, cell.toNumber = .ok x ∧ x.isFinite := by
  obtain ⟨first, rest, rfl⟩ := List.exists_cons_of_ne_nil (ne_nil_of_inferType h (by decide))
  obtain ⟨allFinite, hFinite, h⟩ := bind_eq_ok_iff.1 h
  cases allFinite with
  | true =>
      have hFirst := allM_eq_ok_true_iff.1 hFinite first List.mem_cons_self
      obtain ⟨x, hNumber, hFirst⟩ := bind_eq_ok_iff.1 hFirst
      exact ⟨first, List.mem_cons_self, x, hNumber, Except.ok.inj hFirst⟩
  | false =>
      obtain ⟨allBoolean, -, h⟩ := bind_eq_ok_iff.1 h
      cases allBoolean with
      | true => cases h
      | false =>
          have hType := Except.ok.inj h
          split at hType <;> cases hType

end

/-! ## Extremes of texts -/

namespace Text

/-- The first text does not come behind the second one in the order of code points. -/
def NotBehind (s t : String) : Prop := (compareCodePoints s.toList t.toList).isLE

theorem precedes_eq_false_iff {s t : String} : precedes t s = false ↔ NotBehind s t := by
  rw [NotBehind, precedes, beq_eq_false_iff_ne, @Std.OrientedCmp.eq_swap _ compareCodePoints]
  cases compareCodePoints s.toList t.toList <;> simp

theorem NotBehind.trans {s t u : String} (h : NotBehind s t) (h' : NotBehind t u) :
    NotBehind s u :=
  Std.TransCmp.isLE_trans h h'

theorem NotBehind.total (s t : String) : NotBehind s t ∨ NotBehind t s := by
  rw [NotBehind, NotBehind, @Std.OrientedCmp.eq_swap _ compareCodePoints _ t.toList]
  cases compareCodePoints s.toList t.toList <;> simp

theorem NotBehind.antisymm {s t : String} (h : NotBehind s t) (h' : NotBehind t s) : s = t :=
  String.toList_inj.1 (Std.LawfulEqCmp.eq_of_compare (Std.OrientedCmp.isLE_antisymm h h'))

end Text

namespace Profile

open Text (NotBehind)

/-- The text that is kept is one of those that were met, and none of them is beyond it. -/
theorem exists_extremeText {precedes : String → String → Bool} {within : String → String → Prop}
    (hPrecedes : ∀ s t, precedes t s = false ↔ within s t)
    (hTrans : ∀ {s t u}, within s t → within t u → within s u)
    (hTotal : ∀ s t, within s t ∨ within t s) {texts : List String} (h : texts ≠ []) :
    ∃ s ∈ texts, extremeText? precedes texts = some s ∧ ∀ t ∈ texts, within s t := by
  have hRefl : ∀ s, within s s := fun s => (hTotal s s).elim id id
  obtain ⟨first, rest, rfl⟩ := List.exists_cons_of_ne_nil h
  induction rest generalizing first with
  | nil => exact ⟨first, List.mem_cons_self, rfl, by simp [hRefl]⟩
  | cons next rest ih =>
      obtain ⟨best, hBest, hFirst, hNext⟩ : ∃ best, (if precedes next first then next else first) =
          best ∧ within best first ∧ within best next := by
        refine ⟨_, rfl, ?_⟩
        cases hOrder : precedes next first with
        | true =>
            have hNot : ¬ within first next := by simp [← hPrecedes, hOrder]
            exact ⟨(hTotal first next).resolve_left hNot, hRefl next⟩
        | false => exact ⟨hRefl first, (hPrecedes first next).1 hOrder⟩
      have hOneOf : best = first ∨ best = next := by
        rw [← hBest]
        split <;> simp
      obtain ⟨s, hs, hFound, hWithin⟩ := ih best (by simp)
      have hFold : extremeText? precedes (first :: next :: rest) =
          extremeText? precedes (best :: rest) := by
        rw [extremeText?, List.foldl_cons, hBest, extremeText?]
      refine ⟨s, ?_, hFold.trans hFound, ?_⟩
      · rcases List.mem_cons.1 hs with rfl | hs
        · rcases hOneOf with rfl | rfl <;> simp
        · simp [hs]
      · have hs := hWithin best List.mem_cons_self
        simp only [List.forall_mem_cons]
        exact ⟨hTrans hs hFirst, hTrans hs hNext, fun t ht => hWithin t (by simp [ht])⟩

theorem exists_leastText {texts : List String} (h : texts ≠ []) :
    ∃ s ∈ texts, extremeText? Text.precedes texts = some s ∧ ∀ t ∈ texts, NotBehind s t :=
  @exists_extremeText _ NotBehind (fun _ _ => Text.precedes_eq_false_iff) .trans
    NotBehind.total _ h

theorem exists_greatestText {texts : List String} (h : texts ≠ []) :
    ∃ s ∈ texts, extremeText? (fun s t => Text.precedes t s) texts = some s ∧
      ∀ t ∈ texts, NotBehind t s :=
  @exists_extremeText _ (fun s t => NotBehind t s)
    (fun _ _ => Text.precedes_eq_false_iff) (fun h h' => h'.trans h)
    (fun s t => NotBehind.total t s) _ h

end Profile

theorem Binary64.isNaN_of_isFinite {x : Binary64} (h : x.isFinite) : x.isNaN = false := by
  cases x with
  | nan => cases h
  | _ => rfl

/-! ## Profiles -/

namespace Profile

/-- Two cells are numbers of a set, and no number of the set is beyond them. -/
def SpanNumbers (xs : Set Binary64) (least greatest : Cell) : Prop :=
  ∃ x ∈ xs, ∃ y ∈ xs, least = .float x ∧ greatest = .float y ∧ ∀ z ∈ xs, x.le z ∧ z.le y

/-- Two cells are the least and the greatest text of a set, in the order of code points. -/
def SpanTexts (texts : Set String) (least greatest : Cell) : Prop :=
  ∃ s ∈ texts, ∃ t ∈ texts, least = .text s ∧ greatest = .text t ∧
    ∀ text ∈ texts, Text.NotBehind s text ∧ Text.NotBehind text t

section

variable {xs : Set Binary64} {texts : Set String} {least greatest least' greatest' : Cell}

/-- The numbers that span a set are told by it, up to the signs of zeros. -/
theorem SpanNumbers.sameValue (h : SpanNumbers xs least greatest)
    (h' : SpanNumbers xs least' greatest') :
    least.SameValue least' ∧ greatest.SameValue greatest' := by
  obtain ⟨x, hx, y, hy, rfl, rfl, hBetween⟩ := h
  obtain ⟨x', hx', y', hy', rfl, rfl, hBetween'⟩ := h'
  rw [Cell.SameValue.float_iff, Cell.SameValue.float_iff]
  exact ⟨Binary64.rank_eq_of_le_of_le (hBetween x' hx').1 (hBetween' x hx).1,
    Binary64.rank_eq_of_le_of_le (hBetween' y hy).2 (hBetween y' hy').2⟩

theorem SpanTexts.eq (h : SpanTexts texts least greatest) (h' : SpanTexts texts least' greatest') :
    least = least' ∧ greatest = greatest' := by
  obtain ⟨s, hs, t, ht, rfl, rfl, hBetween⟩ := h
  obtain ⟨s', hs', t', ht', rfl, rfl, hBetween'⟩ := h'
  rw [(hBetween s' hs').1.antisymm (hBetween' s hs).1,
    (hBetween' t ht).2.antisymm (hBetween t' ht').2]
  exact ⟨rfl, rfl⟩

end

/-- What a profile says of a column of rows. -/
structure Describes (profile : Profile) (rows : List Row) (column : String) : Prop where
  name_eq : profile.name = column
  /-- Missing values and values make up the rows. -/
  missingCount_add : profile.missingCount + (rows.countP fun row => !(row.get column).isEmpty) =
    rows.length
  /-- As many texts differ. -/
  uniqueCount_eq : profile.uniqueCount = (columnTexts rows column).ncard
  /-- All finite numbers of the column lie between the extremes, whether they belong to the sample
  or not. -/
  ofNumbers : profile.type = .number →
    SpanNumbers (columnFiniteNumbers rows column) profile.least profile.greatest
  ofTexts : profile.type = .string ∨ profile.type = .date →
    SpanTexts (columnTexts rows column) profile.least profile.greatest
  ofOthers : profile.type = .boolean ∨ profile.type = .empty →
    profile.least = .missing ∧ profile.greatest = .missing

/-- Two profiles are equal, numbers being compared as numbers: an extreme that is zero may have
either sign. -/
structure Same (profile profile' : Profile) : Prop where
  name_eq : profile.name = profile'.name
  type_eq : profile.type = profile'.type
  missingCount_eq : profile.missingCount = profile'.missingCount
  uniqueCount_eq : profile.uniqueCount = profile'.uniqueCount
  least : profile.least.SameValue profile'.least
  greatest : profile.greatest.SameValue profile'.greatest

variable {rows rows' : List Row} {column : String} {profile profile' : Profile}

/-- The passes that a profile is made in. -/
theorem steps_of_ofColumn (h : ofColumn rows column = .ok profile) :
    ∃ texts, (presentCells rows column).mapM Cell.toText = .ok texts ∧
      inferType (presentCells rows column) = .ok profile.type ∧
      extremes profile.type (presentCells rows column) texts =
        .ok (profile.least, profile.greatest) ∧
      profile.name = column ∧
      profile.missingCount = rows.length - (presentCells rows column).length ∧
      profile.uniqueCount = (firstOccurrences texts).length := by
  obtain ⟨texts, hTexts, h⟩ := bind_eq_ok_iff.1 h
  obtain ⟨type, hType, h⟩ := bind_eq_ok_iff.1 h
  obtain ⟨extremes, hExtremes, h⟩ := bind_eq_ok_iff.1 h
  cases h
  refine ⟨texts, hTexts, hType, hExtremes, rfl, ?_, rfl⟩
  show (rows.map (·.get column)).length - _ = _
  rw [List.length_map]
  rfl

theorem length_firstOccurrences (texts : List String) :
    (firstOccurrences texts).length = {text | text ∈ texts}.ncard := by
  have hSet : {text | text ∈ texts} = ((firstOccurrences texts).toFinset : Set String) := by
    ext text
    rw [Finset.mem_coe, List.mem_toFinset, mem_firstOccurrences]
    rfl
  rw [hSet, Set.ncard_coe_finset, List.toFinset_card_of_nodup (nodup_firstOccurrences texts)]

/-- The extremes of a column of numbers are found among all its values, the sample granting that
there is one. -/
theorem numbers_of_extremes {texts : List String} {least greatest : Cell}
    (hType : inferType (presentCells rows column) = .ok .number)
    (h : extremes .number (presentCells rows column) texts = .ok (least, greatest)) :
    SpanNumbers (columnFiniteNumbers rows column) least greatest := by
  obtain ⟨cell, hCell, w, hNumber, hw⟩ := exists_isFinite_of_inferType hType
  obtain ⟨xs, hxs, h⟩ := bind_eq_ok_iff.1 h
  have hSome : xs.filter Binary64.isFinite ≠ [] :=
    List.ne_nil_of_mem (List.mem_filter.2 ⟨(mem_of_mapM hxs).2 ⟨cell, hCell, hNumber⟩, hw⟩)
  have hNumbers : ∀ x ∈ xs.filter Binary64.isFinite, x.isNaN = false :=
    fun x hx => Binary64.isNaN_of_isFinite (List.mem_filter.1 hx).2
  obtain ⟨x, hx, hLeast, hAbove⟩ := Reduction.exists_least? hNumbers hSome
  obtain ⟨y, hy, hGreatest, hBelow⟩ := Reduction.exists_greatest? hNumbers hSome
  rw [Except.ok.injEq, Prod.mk.injEq, hLeast, hGreatest] at h
  rw [columnFiniteNumbers_eq hxs]
  exact ⟨x, hx, y, hy, h.1.symm, h.2.symm, fun z hz => ⟨hAbove z hz, hBelow z hz⟩⟩

theorem texts_of_extremes {type : ColumnType} {values : List Cell} {texts : List String}
    {least greatest : Cell} (hType : type = .string ∨ type = .date) (hSome : texts ≠ [])
    (h : extremes type values texts = .ok (least, greatest)) :
    SpanTexts {text | text ∈ texts} least greatest := by
  obtain ⟨s, hs, hFirst, hLeast⟩ := exists_leastText hSome
  obtain ⟨t, ht, hLast, hGreatest⟩ := exists_greatestText hSome
  have hFound : extremes type values texts = .ok (.text s, .text t) := by
    rcases hType with rfl | rfl <;> simp only [extremes, hFirst, hLast, cellOfText?]
  cases hFound.symm.trans h
  exact ⟨s, hs, t, ht, rfl, rfl, fun text hText => ⟨hLeast text hText, hGreatest text hText⟩⟩

theorem missing_of_extremes {type : ColumnType} {values : List Cell} {texts : List String}
    {least greatest : Cell} (hType : type = .boolean ∨ type = .empty)
    (h : extremes type values texts = .ok (least, greatest)) :
    least = .missing ∧ greatest = .missing := by
  rcases hType with rfl | rfl <;> cases h <;> exact ⟨rfl, rfl⟩

/-- What a profile says holds of the column. -/
theorem describes_of_ofColumn (h : ofColumn rows column = .ok profile) :
    profile.Describes rows column := by
  obtain ⟨texts, hTexts, hType, hExtremes, hName, hMissing, hUnique⟩ := steps_of_ofColumn h
  have hColumn := columnTexts_eq hTexts
  refine ⟨hName, ?_, ?_, fun hNumber => ?_, fun hText => ?_, fun hOther => ?_⟩
  · have hAll := List.countP_le_length (p := fun row : Row => !(row.get column).isEmpty) (l := rows)
    rw [hMissing, length_presentCells]
    omega
  · rw [hUnique, hColumn, length_firstOccurrences]
  · rw [hNumber] at hType hExtremes
    exact numbers_of_extremes hType hExtremes
  · have hSome : profile.type ≠ .empty := by
      rcases hText with hText | hText <;> simp [hText]
    have hFound := ne_nil_of_mapM (ne_nil_of_inferType hType hSome) hTexts
    rw [hColumn]
    exact texts_of_extremes hText hFound hExtremes
  · exact missing_of_extremes hOther hExtremes

/-! ## What a profile depends on -/

/-- A column in another order has the same values. -/
theorem Describes.of_perm (hPerm : rows'.Perm rows) (h : profile.Describes rows' column) :
    profile.Describes rows column := by
  have hTexts : columnTexts rows' column = columnTexts rows column := by
    simp only [columnTexts, hPerm.mem_iff]
  have hNumbers : columnFiniteNumbers rows' column = columnFiniteNumbers rows column := by
    simp only [columnFiniteNumbers, hPerm.mem_iff]
  obtain ⟨hName, hMissing, hUnique, ofNumbers, ofTexts, ofOthers⟩ := h
  rw [hPerm.countP_eq, hPerm.length_eq] at hMissing
  rw [hTexts] at hUnique ofTexts
  rw [hNumbers] at ofNumbers
  exact ⟨hName, hMissing, hUnique, ofNumbers, ofTexts, ofOthers⟩

/-- Nothing but the type is left open: extremes of numbers are at one place of the order, and those
of texts are one text. -/
theorem Describes.same (h : profile.Describes rows column) (h' : profile'.Describes rows column)
    (hType : profile.type = profile'.type) : profile.Same profile' := by
  have hMissing : profile.missingCount = profile'.missingCount := by
    have hSum := h.missingCount_add
    have hSum' := h'.missingCount_add
    omega
  have hKinds : profile.type = .number ∨ (profile.type = .string ∨ profile.type = .date) ∨
      (profile.type = .boolean ∨ profile.type = .empty) := by
    cases profile.type <;> simp
  have hExtremes : profile.least.SameValue profile'.least ∧
      profile.greatest.SameValue profile'.greatest := by
    rcases hKinds with hNumber | hText | hOther
    · exact (h.ofNumbers hNumber).sameValue (h'.ofNumbers (hType ▸ hNumber))
    · obtain ⟨hLeast, hGreatest⟩ := (h.ofTexts hText).eq (h'.ofTexts (hType ▸ hText))
      exact ⟨.inl hLeast, .inl hGreatest⟩
    · obtain ⟨hLeast, hGreatest⟩ := h.ofOthers hOther
      obtain ⟨hLeast', hGreatest'⟩ := h'.ofOthers (hType ▸ hOther)
      exact ⟨.inl (hLeast.trans hLeast'.symm), .inl (hGreatest.trans hGreatest'.symm)⟩
  exact ⟨h.name_eq.trans h'.name_eq.symm, hType, hMissing,
    h.uniqueCount_eq.trans h'.uniqueCount_eq.symm, hExtremes.1, hExtremes.2⟩

/-- **Profiles are exact.** Rows whose whole numbers fit the format have a profile of each column,
which is what the column gets if its texts can be encoded. What it says holds of the column, its
type is told by the first values, and if these are all, the order of the rows does not matter. -/
theorem ofColumn_exact (hFits : ∀ row ∈ rows, row.FitsFormat) (column : String) :
    ∃ profile, ofColumn rows column = .ok profile ∧ profile.Describes rows column ∧
      ((∀ row ∈ rows, (row.get column).IsEncodable) → ofEncoded rows column = .ok profile) ∧
      (∀ rows' : List Row, (∀ row ∈ rows', row.FitsFormat) →
        (presentCells rows' column).take sampleSize = (presentCells rows column).take sampleSize →
        ∃ profile', ofColumn rows' column = .ok profile' ∧ profile'.type = profile.type) ∧
      ((presentCells rows column).length ≤ sampleSize → ∀ rows' : List Row, rows'.Perm rows →
        ∃ profile', ofColumn rows' column = .ok profile' ∧ profile'.Same profile) := by
  have hConverts : ∀ row ∈ rows, row.Converts := fun row hRow => (hFits row hRow).converts
  obtain ⟨profile, hProfile, -⟩ := hasValue_ofColumn hConverts column
  have hDescribes := describes_of_ofColumn hProfile
  obtain ⟨-, -, hType, -⟩ := steps_of_ofColumn hProfile
  refine ⟨profile, hProfile, hDescribes, fun hEncodable => ?_, fun rows' hFits' hSample => ?_,
    fun hAll rows' hPerm => ?_⟩
  · obtain ⟨encoded, hEncoded, -⟩ := (hasValue_encodeTexts_iff hConverts column).2 hEncodable
    rw [ofEncoded, hEncoded]
    exact hProfile
  · obtain ⟨profile', hProfile', -⟩ :=
      hasValue_ofColumn (fun row hRow => (hFits' row hRow).converts) column
    obtain ⟨-, -, hType', -⟩ := steps_of_ofColumn hProfile'
    rw [inferType_congr_sample hSample, hType] at hType'
    exact ⟨profile', hProfile', (Except.ok.inj hType').symm⟩
  · obtain ⟨profile', hProfile', -⟩ :=
      hasValue_ofColumn (fun row hRow => hConverts row (hPerm.mem_iff.1 hRow)) column
    obtain ⟨-, -, hType', -⟩ := steps_of_ofColumn hProfile'
    have hCells : (presentCells rows' column).Perm (presentCells rows column) :=
      presentCells_perm hPerm
    have hSame : inferType (presentCells rows column) = inferType (presentCells rows' column) :=
      inferType_congr_of_mem_iff (converts_of_mem_presentCells hConverts) hAll
        (hCells.length_eq.trans_le hAll) fun cell => hCells.mem_iff.symm
    rw [← hSame, hType] at hType'
    exact ⟨profile', hProfile', ((describes_of_ofColumn hProfile').of_perm hPerm).same hDescribes
      (Except.ok.inj hType').symm⟩

/-- A column of numbers in several forms, the two zeros among them, and of three kinds of empty
cells. -/
def measurements : List Row := [
  Row.ofEntries [("v", .text " 3 ")], Row.ofEntries [("v", .int 10)],
  Row.ofEntries [("v", .float (.finite true 0 Binary64.isMagnitude_zero))],
  Row.ofEntries [("v", .text "")], Row.ofEntries [("v", .float .zero)],
  Row.ofEntries [("v", .missing)], Row.ofEntries [("k", .bool true)],
  Row.ofEntries [("v", .text "1e1")]]

theorem ofColumn_exact_measurements :
    ∃ profile, ofColumn measurements "v" = .ok profile ∧ profile.Describes measurements "v" ∧
      profile.type = .number ∧ profile.missingCount = 3 ∧
      ∃ profile', ofColumn measurements.reverse "v" = .ok profile' ∧ profile'.Same profile := by
  obtain ⟨profile, hProfile, hDescribes, -, -, hPerm⟩ :=
    @ofColumn_exact measurements (by decide +kernel) "v"
  have hNumber : inferType (presentCells measurements "v") = .ok .number := by decide +kernel
  have hPresent : (measurements.countP fun row => !(row.get "v").isEmpty) = 5 := by decide +kernel
  obtain ⟨-, -, hType, -⟩ := steps_of_ofColumn hProfile
  have hSum := hDescribes.missingCount_add
  rw [hPresent] at hSum
  refine ⟨profile, hProfile, hDescribes, Except.ok.inj (hType.symm.trans hNumber),
    Nat.add_right_cancel hSum, hPerm ?_ _ (List.reverse_perm measurements)⟩
  rw [length_presentCells, hPresent]
  decide

end Profile

end TableFlow
