import TableFlow.Proofs.Cell.EqualNumbers
import TableFlow.Proofs.Grouping
import TableFlow.Proofs.Profile

/-!
# Equal numbers in stages

The stages that group rows, count values or look for a value go by the text of a cell. So two cells
with one text are never told apart by them, whatever kinds they are of. For equal numbers this means
that they are grouped and counted as one as long as they are safe to mix. A large number that occurs
both as a whole number and as a binary64 number has two texts, and makes up two groups.

## Main results

* `exists_groups_of_keys`: rows with one key are in one group.
* `Cell.NotToldApart.of_text`: cells with one text are not told apart.
* `Cell.equalNumbers_notToldApart`: which equal numbers are not told apart.
-/

namespace TableFlow

/-- Rows with keys have groups, and rows with one key are in one group. -/
theorem exists_groups_of_keys {key : Row → Except Fault String} {rows : List Row}
    (h : ∀ row ∈ rows, HasValue (key row)) :
    ∃ groups, groupRows key rows = .ok groups ∧ ∀ row ∈ rows, ∀ row' ∈ rows, key row = key row' →
      ∃ group ∈ groups, row ∈ group.2 ∧ row' ∈ group.2 := by
  obtain ⟨keys, -, hMem, hGroups⟩ := exists_groupRows_eq h
  refine ⟨_, hGroups, fun row hRow row' hRow' hKey => ?_⟩
  obtain ⟨k, hk, -⟩ := h row hRow
  refine ⟨_, List.mem_map_of_mem ((hMem k).2 ⟨row, hRow, hk⟩), ?_, ?_⟩
  · exact List.mem_filter.2 ⟨hRow, decide_eq_true hk⟩
  · exact List.mem_filter.2 ⟨hRow', decide_eq_true (hKey ▸ hk)⟩

/-- A row with a cell that is written like one of the others adds no text to a column. -/
theorem columnTexts_insert {column : String} {front back : List Row} {row row' : Row}
    (hRow : row ∈ front ++ back)
    (hAlike : (row'.get column).isEmpty = (row.get column).isEmpty ∧
      (row'.get column).toText = (row.get column).toText) :
    columnTexts (front ++ row' :: back) column = columnTexts (front ++ back) column := by
  ext text
  simp only [columnTexts, Set.mem_ofPred_eq, List.mem_append, List.mem_cons]
  constructor
  · rintro ⟨found, hFront | rfl | hBack, hFound⟩
    · exact ⟨found, .inl hFront, hFound⟩
    · rw [hAlike.1, hAlike.2] at hFound
      exact ⟨row, List.mem_append.1 hRow, hFound⟩
    · exact ⟨found, .inr hBack, hFound⟩
  · rintro ⟨found, hFront | hBack, hFound⟩
    · exact ⟨found, .inl hFront, hFound⟩
    · exact ⟨found, .inr (.inr hBack), hFound⟩

namespace Cell

/-- No stage that goes by texts tells the two cells apart. -/
structure NotToldApart (a b : Cell) : Prop where
  text : ∃ text, a.toText = .ok text ∧ b.toText = .ok text
  /-- Rows with the cells in the column of an aggregation are in one of its groups. -/
  aggregation : ∀ (aggregation : Aggregation) (rows : List Row),
    (∀ row ∈ rows, HasValue (aggregation.key row)) →
      ∃ groups, groupRows aggregation.key rows = .ok groups ∧ ∀ row ∈ rows, ∀ row' ∈ rows,
        row.get aggregation.column = a → row'.get aggregation.column = b →
          ∃ group ∈ groups, row ∈ group.2 ∧ row' ∈ group.2
  /-- Rows with the cells in columns of a pivot, and with one text in each of its other columns, are
  in one of its groups. -/
  pivot : ∀ (pivot : Pivot) (rows : List Row), (∀ row ∈ rows, HasValue (pivot.key row)) →
    ∃ groups, groupRows pivot.key rows = .ok groups ∧ ∀ row ∈ rows, ∀ row' ∈ rows,
      (∀ column ∈ pivot.rows, (row.get column).toText = (row'.get column).toText ∨
        row.get column = a ∧ row'.get column = b) →
          ∃ group ∈ groups, row ∈ group.2 ∧ row' ∈ group.2
  /-- Where one of the cells occurs, the other one does not count as a further value. -/
  uniqueCount : ∀ (column : String) (front back : List Row) (row' : Row)
    (profile profile' : Profile),
    Profile.ofColumn (front ++ back) column = .ok profile →
      Profile.ofColumn (front ++ row' :: back) column = .ok profile' →
        (∃ row ∈ front ++ back, row.get column = a) → row'.get column = b →
          profile'.uniqueCount = profile.uniqueCount
  /-- The filters that look for a value keep both or neither. -/
  equals : ∀ (filter : Filter), filter.operator = "equals" → ∀ row row' : Row,
    row.get filter.column = a → row'.get filter.column = b →
      ∃ kept, filter.keeps row = .ok kept ∧ filter.keeps row' = .ok kept

/-- Cells with one text, which is not empty, are not told apart. -/
theorem NotToldApart.of_text {a b : Cell} {text : String} (ha : a.toText = .ok text)
    (hb : b.toText = .ok text) (hPresent : a.isEmpty = false) (hPresent' : b.isEmpty = false) :
    NotToldApart a b where
  text := ⟨text, ha, hb⟩
  aggregation aggregation rows hKeys := by
    obtain ⟨groups, hGroups, hSame⟩ := exists_groups_of_keys hKeys
    refine ⟨groups, hGroups, fun row hRow row' hRow' hCell hCell' => ?_⟩
    refine hSame row hRow row' hRow' ?_
    rw [Aggregation.key, Aggregation.key, hCell, hCell', ha, hb]
  pivot pivot rows hKeys := by
    obtain ⟨groups, hGroups, hSame⟩ := exists_groups_of_keys hKeys
    refine ⟨groups, hGroups, fun row hRow row' hRow' hCells => hSame row hRow row' hRow' ?_⟩
    have hLabels : pivot.labels row = pivot.labels row' := by
      refine mapM_congr_left fun column hColumn => ?_
      rcases hCells column hColumn with hText | ⟨hCell, hCell'⟩
      · exact hText
      · rw [hCell, hCell', ha, hb]
    rw [Pivot.key, Pivot.key, hLabels]
  uniqueCount column front back row' profile profile' hProfile hProfile' hRow hCell' := by
    obtain ⟨row, hRow, hCell⟩ := hRow
    have hAlike : (row'.get column).isEmpty = (row.get column).isEmpty ∧
        (row'.get column).toText = (row.get column).toText := by
      rw [hCell, hCell', hPresent, hPresent', ha, hb]
      exact ⟨rfl, rfl⟩
    rw [(Profile.describes_of_ofColumn hProfile).uniqueCount_eq,
      (Profile.describes_of_ofColumn hProfile').uniqueCount_eq, columnTexts_insert hRow hAlike]
  equals filter hOperator row row' hCell hCell' := by
    have hKeeps : ∀ row : Row, (row.get filter.column).toText = .ok text →
        filter.keeps row = .ok (Text.lower text.toList == Text.lower filter.value.toList) := by
      intro row hText
      rw [Filter.keeps, hOperator]
      show Filter.relatesText (fun v t => t == v) filter.value (row.get filter.column) = _
      rw [Filter.relatesText, hText]
      rfl
    exact ⟨_, hKeeps row (hCell ▸ ha), hKeeps row' (hCell' ▸ hb)⟩

/-- **Which equal numbers are grouped and counted as one.** Finite numbers that are equal and give a
number without overflow have one text if and only if they are of one type or small. Then no stage
that goes by texts tells them apart. -/
theorem equalNumbers_notToldApart {a b : Cell} (h : EqualNumbers a b)
    (hConverts : HasValue a.toNumber) :
    (a.toText = b.toText ↔ SafeToMix a b) ∧ (SafeToMix a b → NotToldApart a b) := by
  refine ⟨toText_eq_iff h, fun hSafe => ?_⟩
  obtain ⟨units, ha, hb⟩ := h
  obtain ⟨text, hText⟩ := exists_toText_of_units? ha hConverts
  exact .of_text hText ((toText_eq_iff ⟨units, ha, hb⟩).2 hSafe ▸ hText) (isEmpty_of_units? ha)
    (isEmpty_of_units? hb)

/-- The largest number below the bound that is held by the format, negated. -/
theorem equalNumbers_notToldApart_belowBound :
    EqualNumbers (.int (-9999999999999998)) (.float (Binary64.nearestInt (-9999999999999998))) ∧
      HasValue (Cell.int (-9999999999999998)).toNumber ∧
      NotToldApart (.int (-9999999999999998))
        (.float (Binary64.nearestInt (-9999999999999998))) := by
  have hEqual : EqualNumbers (.int (-9999999999999998))
      (.float (Binary64.nearestInt (-9999999999999998))) := ⟨_, rfl, by decide +kernel⟩
  have hConverts : HasValue (Cell.int (-9999999999999998)).toNumber := by decide +kernel
  exact ⟨hEqual, hConverts, (equalNumbers_notToldApart hEqual hConverts).2
    ((safeToMix_iff rfl (by decide)).2 (by decide))⟩

/-- One number as a whole number and as a binary64 number, at the bound. -/
def numberTwice : List Row := [
  Row.ofEntries [("k", .int (10 ^ 16))],
  Row.ofEntries [("k", .float (Binary64.nearestInt (10 ^ 16)))]]

/-- From the bound on, equal numbers of two types are told apart. -/
theorem not_notToldApart_numberTwice :
    EqualNumbers (.int (10 ^ 16)) (.float (Binary64.nearestInt (10 ^ 16))) ∧
      HasValue (Cell.int (10 ^ 16)).toNumber ∧
      HasValue (Cell.float (Binary64.nearestInt (10 ^ 16))).toNumber ∧
      (Cell.int (10 ^ 16)).toText ≠ (Cell.float (Binary64.nearestInt (10 ^ 16))).toText ∧
      (groupRows (Aggregation.mk "k" .count).key numberTwice).map (·.map Prod.fst) =
        .ok ["10000000000000000", "1e+16"] :=
  ⟨⟨_, rfl, by decide +kernel⟩, by decide +kernel, by decide +kernel, by decide +kernel,
    by decide +kernel⟩

end Cell

end TableFlow
