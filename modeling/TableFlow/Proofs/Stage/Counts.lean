import Mathlib.Algebra.BigOperators.Group.List.Lemmas
import Mathlib.Algebra.GroupWithZero.Nat
import TableFlow.Proofs.Cell.Empty
import TableFlow.Proofs.Stage.Summaries

/-!
# Profiles and aggregations count alike

A profile asks of each cell of a column whether it is empty, and counts the different texts of the
others. An aggregation does not ask: it groups all rows by the texts of the cells. The two find the
same, since no cell but an empty one has the empty text. The group of the empty text holds the rows
without a value, and there is one more group for each different text.

Both are compared with the list of the texts of all cells, in the order of the rows.

## Main results

* `Profile.counts_of_ofColumn`: what a profile counts, as counts of texts.
* `Aggregation.exists_counts`: what an aggregation counts, as counts of texts.
* `countsAlike_apply`: a profile and an aggregation of one column agree.
-/

namespace TableFlow

/-! ## Counts of texts -/

/-- Some texts are empty, the others are not. -/
theorem length_eq_count_add_length (texts : List String) :
    texts.length = texts.count "" + (texts.filter (· ≠ "")).length := by
  rw [List.length_eq_countP_add_countP (· == ""), ← List.countP_eq_length_filter]
  refine congrArg (texts.count "" + ·) (List.countP_congr fun text _ => ?_)
  simp

section

variable {texts keys : List String} (hNodup : keys.Nodup) (hKeys : ∀ k, k ∈ keys ↔ k ∈ texts)

include hNodup hKeys

/-- The keys of texts are the different texts, and one more if there is an empty text. -/
theorem length_keys_eq :
    keys.length = (firstOccurrences (texts.filter (· ≠ ""))).length +
      if 0 < texts.count "" then 1 else 0 := by
  have hPerm : (keys.filter (· ≠ "")).Perm (firstOccurrences (texts.filter (· ≠ ""))) := by
    refine (List.perm_ext_iff_of_nodup (hNodup.filter _) (nodup_firstOccurrences _)).2 fun k => ?_
    rw [mem_firstOccurrences, List.mem_filter, List.mem_filter, hKeys k]
  have hEmpty : keys.count "" = if 0 < texts.count "" then 1 else 0 := by
    simp only [hNodup.count, List.count_pos_iff, hKeys]
  rw [length_eq_count_add_length keys, hEmpty, hPerm.length_eq, Nat.add_comm]

/-- The counts of the keys of a kind add up to the number of texts of that kind. -/
theorem sum_count_keys (p : String → Bool) :
    ((keys.filter p).map fun k => texts.count k).sum = texts.countP p := by
  have hPerm : keys.Perm texts.dedup := by
    refine (List.perm_ext_iff_of_nodup hNodup texts.nodup_dedup).2 fun k => ?_
    rw [List.mem_dedup, hKeys k]
  rw [((hPerm.filter p).map fun k => texts.count k).sum_eq]
  exact List.sum_map_count_dedup_filter_eq_countP p texts

end

/-! ## Profiles -/

/-- The texts of the cells that are not empty are the texts that are not empty. -/
theorem mapM_toText_filter {cells : List Cell} {texts : List String}
    (h : cells.mapM Cell.toText = .ok texts) :
    (cells.filter (!·.isEmpty)).mapM Cell.toText = .ok (texts.filter (· ≠ "")) := by
  induction cells generalizing texts with
  | nil =>
      cases h
      rfl
  | cons cell cells ih =>
      rw [List.mapM_cons] at h
      obtain ⟨text, hText, h⟩ := bind_eq_ok_iff.1 h
      obtain ⟨others, hOthers, h⟩ := bind_eq_ok_iff.1 h
      cases h
      by_cases hEmpty : text = ""
      · have hCell : cell.isEmpty = true := Cell.toText_eq_empty_iff.1 (hEmpty ▸ hText)
        rw [List.filter_cons_of_neg (by simp [hCell]), List.filter_cons_of_neg (by simp [hEmpty])]
        exact ih hOthers
      · have hCell : ¬ cell.isEmpty = true := by
          intro hCell
          have hNone := Cell.toText_eq_empty_iff.2 hCell
          rw [hText] at hNone
          exact hEmpty (Except.ok.inj hNone)
        rw [List.filter_cons_of_pos (by simp [hCell]), List.filter_cons_of_pos (by simp [hEmpty]),
          List.mapM_cons, hText]
        show ((cells.filter (!·.isEmpty)).mapM Cell.toText >>= fun rest => .ok (text :: rest)) = _
        rw [ih hOthers]
        rfl

/-- What a profile counts, as counts of texts. -/
theorem Profile.counts_of_ofColumn {rows : List Row} {column : String} {texts : List String}
    {profile : Profile} (hTexts : (rows.map (·.get column)).mapM Cell.toText = .ok texts)
    (h : ofColumn rows column = .ok profile) :
    profile.missingCount = texts.count "" ∧
      profile.uniqueCount = (firstOccurrences (texts.filter (· ≠ ""))).length := by
  have hPresent := mapM_toText_filter hTexts
  obtain ⟨present, hPresent', h⟩ := bind_eq_ok_iff.1 h
  cases hPresent.symm.trans hPresent'
  obtain ⟨type, -, h⟩ := bind_eq_ok_iff.1 h
  obtain ⟨extremes, -, h⟩ := bind_eq_ok_iff.1 h
  cases h
  refine ⟨?_, rfl⟩
  show (rows.map (·.get column)).length - _ = _
  rw [← length_of_mapM hTexts, ← length_of_mapM hPresent, length_eq_count_add_length texts,
    Nat.add_sub_cancel]

/-! ## Summary rows -/

/-- The keys and the counts of summary rows. -/
def ShowCounts (column : String) (counts : List (String × Nat)) (summaries : List Row) : Prop :=
  List.Forall₂ (fun entry row => row.get column = .text entry.1 ∧
    row.get Aggregation.countColumn = .int entry.2) counts summaries

theorem Row.get_set_self (row : Row) (column : String) (cell : Cell) :
    (row.set column cell).get column = cell := by
  rw [get, get?_set_self]
  rfl

theorem Row.get_set_of_ne (row : Row) {column other : String} (cell : Cell) (h : other ≠ column) :
    (row.set column cell).get other = row.get other := by
  rw [get, get?_set_of_ne row cell h, get]

namespace Aggregation

variable {aggregation : Aggregation} {rows : List Row} {texts : List String}

theorem length_group_eq (hTexts : rows.mapM aggregation.key = .ok texts) (k : String) :
    (rows.filter fun row => aggregation.key row = .ok k).length = texts.count k := by
  have hMap : texts.map (· == k) = rows.map fun row => decide (aggregation.key row = .ok k) := by
    refine map_of_mapM (fun row text hText => ?_) hTexts
    simp only [hText, Except.ok.injEq]
    rfl
  have hCount := congrArg (List.countP id) hMap
  rw [List.countP_map, List.countP_map] at hCount
  rw [← List.countP_eq_length_filter]
  exact hCount.symm

/-- The summary of a group shows the key and the size of the group. -/
theorem shows_of_summary (hCount : aggregation.column ≠ countColumn)
    (hValue : aggregation.column ≠ valueColumn) {k : String} {group : List Row} {row : Row}
    (h : aggregation.summary k group = .ok row) :
    row.get aggregation.column = .text k ∧ row.get countColumn = .int group.length := by
  obtain ⟨value, -, h⟩ := bind_eq_ok_iff.1 h
  cases h
  simp only [Row.ofEntries, List.foldl_cons, List.foldl_nil]
  constructor
  · rw [Row.get_set_of_ne _ _ hValue, Row.get_set_of_ne _ _ hCount, Row.get_set_self]
  · rw [Row.get_set_of_ne _ _ (by decide), Row.get_set_self]

/-- What an aggregation counts, as counts of texts: one summary row for each text. -/
theorem exists_counts (hRows : ∀ row ∈ rows, row.Converts)
    (hCount : aggregation.column ≠ countColumn) (hValue : aggregation.column ≠ valueColumn)
    (hTexts : rows.mapM aggregation.key = .ok texts) :
    ∃ (summaries : List Row) (keys : List String), aggregation.apply rows = .ok summaries ∧
      keys.Nodup ∧ (∀ k, k ∈ keys ↔ k ∈ texts) ∧
      ShowCounts aggregation.column (keys.map fun k => (k, texts.count k)) summaries := by
  obtain ⟨summaries, hSummaries, -⟩ := aggregation.hasValue_apply hRows
  obtain ⟨keys, row, hPerKey, rfl⟩ :=
    @Summary.exists_of_summarizeBy aggregation.key aggregation.summary _ _ hSummaries
  refine ⟨_, keys, hSummaries, hPerKey.nodup, fun k => ?_, ?_⟩
  · rw [hPerKey.mem_iff, mem_of_mapM hTexts]
  · unfold ShowCounts
    rw [List.forall₂_map_left_iff, List.forall₂_map_right_iff]
    refine List.forall₂_same.2 fun k hk => ?_
    rw [← length_group_eq hTexts]
    exact shows_of_summary hCount hValue (hPerKey.summary_eq k hk)

end Aggregation

/-! ## Agreement -/

/-- The profile of a column and the summary rows with the given keys and counts tell the same of the
rows of a table. -/
structure CountsAlike (rows : List Row) (column : String) (profile : Profile)
    (summaries : List Row) (counts : List (String × Nat)) : Prop where
  shows : ShowCounts column counts summaries
  nodup : (counts.map Prod.fst).Nodup
  length_eq : summaries.length = profile.uniqueCount + if 0 < profile.missingCount then 1 else 0
  /-- There is a row of the empty text if and only if values are missing. -/
  mem_empty_iff : (∃ n, ("", n) ∈ counts) ↔ 0 < profile.missingCount
  missing_eq : ∀ n, ("", n) ∈ counts → n = profile.missingCount
  /-- The other rows count the cells that are not empty. -/
  sum_eq : ((counts.filter fun entry => entry.1 ≠ "").map Prod.snd).sum =
    (rows.filter fun row => !(row.get column).isEmpty).length

/-- **Profiles and aggregations agree.** Of rows whose whole numbers fit the format, an aggregation
by a column, which is not one of its own two, gives one row for each different text of a value, and
one more with the empty text if the profile of the column finds values missing. That row counts the
missing values, and the other rows count all others. -/
theorem countsAlike_apply {rows : List Row} {column : String} (operation : Reduction)
    (hFits : ∀ row ∈ rows, row.FitsFormat) (hCount : column ≠ Aggregation.countColumn)
    (hValue : column ≠ Aggregation.valueColumn) :
    ∃ profile summaries counts, Profile.ofColumn rows column = .ok profile ∧
      (Aggregation.mk column operation).apply rows = .ok summaries ∧
      CountsAlike rows column profile summaries counts := by
  have hConverts : ∀ row ∈ rows, row.Converts := fun row hRow => (hFits row hRow).converts
  obtain ⟨profile, hProfile, -⟩ := Profile.hasValue_ofColumn hConverts column
  obtain ⟨texts, hTexts, -⟩ := hasValue_mapM fun row hRow => (hConverts row hRow column).1
  have hCells : (rows.map (·.get column)).mapM Cell.toText = .ok texts := by
    rw [List.mapM_map]
    exact hTexts
  obtain ⟨hMissing, hUnique⟩ := Profile.counts_of_ofColumn hCells hProfile
  obtain ⟨summaries, keys, hSummaries, hNodup, hKeys, hShow⟩ :=
    @Aggregation.exists_counts ⟨column, operation⟩ _ _ hConverts hCount hValue hTexts
  refine ⟨profile, summaries, _, hProfile, hSummaries, hShow, ?_, ?_, ?_, ?_, ?_⟩
  · rw [List.map_map]
    show (keys.map fun k => k).Nodup
    rwa [List.map_id']
  · rw [← hShow.length_eq, List.length_map, hUnique, hMissing]
    exact length_keys_eq hNodup hKeys
  · simp [hMissing, hKeys, List.count_pos_iff]
  · simp [hMissing]
  · have hPresent := length_of_mapM (mapM_toText_filter hCells)
    rw [List.filter_map, List.length_map] at hPresent
    rw [List.filter_map, List.map_map]
    show ((keys.filter (· ≠ "")).map fun k => texts.count k).sum = _
    rw [sum_count_keys hNodup hKeys, List.countP_eq_length_filter]
    exact hPresent

/-- Cells that are written alike: numbers, booleans and dates beside texts, and two kinds of empty
cells. -/
def writtenAlike : List Row := [
  Row.ofEntries [("k", .int 1)], Row.ofEntries [("k", .text "1")],
  Row.ofEntries [("k", .float (Binary64.nearestInt 1))], Row.ofEntries [("k", .bool true)],
  Row.ofEntries [("k", .text "true")], Row.ofEntries [("k", .list [.int 1, .text ""])],
  Row.ofEntries [("k", .date ⟨2024, 2, 29, by decide⟩)], Row.ofEntries [("k", .text "2024-02-29")],
  Row.ofEntries [("k", .text "")], Row.ofEntries [("v", .int 1)], Row.ofEntries [("k", .text " ")]]

theorem countsAlike_apply_writtenAlike :
    ∃ profile summaries counts, Profile.ofColumn writtenAlike "k" = .ok profile ∧
      (Aggregation.mk "k" .mean).apply writtenAlike = .ok summaries ∧
      CountsAlike writtenAlike "k" profile summaries counts ∧
      profile.missingCount = 2 ∧ profile.uniqueCount = 5 := by
  obtain ⟨profile, summaries, counts, hProfile, hSummaries, hAlike⟩ :=
    @countsAlike_apply writtenAlike "k" .mean (by decide +kernel) (by decide) (by decide)
  have hTexts : (writtenAlike.map (·.get "k")).mapM Cell.toText =
      .ok ["1", "1", "1", "true", "true", "[1, '']", "2024-02-29", "2024-02-29", "", "", " "] := by
    decide +kernel
  obtain ⟨hMissing, hUnique⟩ := Profile.counts_of_ofColumn hTexts hProfile
  exact ⟨profile, summaries, counts, hProfile, hSummaries, hAlike, hMissing, hUnique⟩

end TableFlow
