import Mathlib.Data.List.Nodup
import Mathlib.Data.List.Perm.Subperm
import Mathlib.Data.List.TakeWhile
import TableFlow.Proofs.Cell.WholeText
import TableFlow.Sheet.Table

/-!
# Names of the columns of a sheet

A name that is taken gets the least number that makes it new. Among one more numbered names than
there are names before, one is new, so the search for it ends, and the names of a header differ.

## Main results

* `exists_firstFree`: the search finds the least number whose name is not taken.
* `nodup_distinctNames` and `distinctNames_eq_append`: the names differ, and those that differ
  already stay as they are.
* `exists_distinctNames`: each name is its own, or has the least number that makes it new.
* `succeeds_headerNames`: the names of a header whose cells have texts.
* `headerNames_distinct`: all of this, for the cells of any header.
-/

namespace TableFlow.Sheet

/-! ## Numbered names -/

theorem numbered_injective (name : String) : Function.Injective (numbered name) := by
  intro m n h
  have hChars := congrArg String.toList h
  simp only [numbered, String.toList_append, String.toList_ofList, List.append_assoc] at hChars
  exact Decimal.numeral_injective (List.append_cancel_left (List.append_cancel_left hChars))

/-- Some number up to one more than the number of names is not taken. -/
theorem exists_numbered_notMem (taken : List String) (name : String) :
    ∃ n, 1 ≤ n ∧ n ≤ 1 + taken.length ∧ numbered name n ∉ taken := by
  by_contra hTaken
  push Not at hTaken
  have hSubset : (List.range' 1 (taken.length + 1)).map (numbered name) ⊆ taken := by
    intro candidate hCandidate
    obtain ⟨n, hn, rfl⟩ := List.mem_map.1 hCandidate
    rw [List.mem_range'_1] at hn
    exact hTaken n hn.1 (by omega)
  have hNodup : ((List.range' 1 (taken.length + 1)).map (numbered name)).Nodup :=
    List.Nodup.map (numbered_injective name) List.nodup_range'
  have hLength := (hNodup.subperm hSubset).length_le
  rw [List.length_map, List.length_range'] at hLength
  omega

/-- The search finds the least number from the start on whose name is not taken, if there is one
within reach. -/
theorem exists_firstFree {taken : List String} {name : String} {fuel n : Nat}
    (h : ∃ k, n ≤ k ∧ k ≤ n + fuel ∧ numbered name k ∉ taken) :
    ∃ k, n ≤ k ∧ firstFree taken name fuel n = numbered name k ∧ numbered name k ∉ taken ∧
      ∀ j, n ≤ j → j < k → numbered name j ∈ taken := by
  induction fuel generalizing n with
  | zero =>
      obtain ⟨k, hLow, hHigh, hNew⟩ := h
      obtain rfl : k = n := by omega
      exact ⟨k, Nat.le_refl k, rfl, hNew, fun j hj hk => absurd hk (by omega)⟩
  | succ fuel ih =>
      unfold firstFree
      split
      · next hTaken =>
        obtain ⟨k, hLow, hHigh, hNew⟩ := h
        have hPast : n ≠ k := by
          rintro rfl
          exact hNew hTaken
        obtain ⟨k', hLow', hFound, hNew', hLeast⟩ :=
          @ih (n + 1) ⟨k, by omega, by omega, hNew⟩
        refine ⟨k', by omega, hFound, hNew', fun j hj hk => ?_⟩
        by_cases hFirst : j = n
        · rwa [hFirst]
        · exact hLeast j (by omega) hk
      · next hNew => exact ⟨n, Nat.le_refl n, rfl, hNew, fun j hj hk => absurd hk (by omega)⟩

/-! ## Distinct names -/

theorem distinctName_notMem (taken : List String) (name : String) :
    distinctName taken name ∉ taken := by
  unfold distinctName
  split
  · obtain ⟨k, -, hFound, hNew, -⟩ := exists_firstFree (exists_numbered_notMem taken name)
    rwa [hFound]
  · assumption

theorem length_distinctNames (taken names : List String) :
    (distinctNames taken names).length = taken.length + names.length := by
  induction names generalizing taken with
  | nil => rfl
  | cons name names ih =>
      rw [distinctNames, ih, List.length_append, List.length_singleton, List.length_cons]
      omega

/-- Names that are given differ from each other and from those before. -/
theorem nodup_distinctNames {taken : List String} (h : taken.Nodup) (names : List String) :
    (distinctNames taken names).Nodup := by
  induction names generalizing taken with
  | nil => exact h
  | cons name names ih =>
      refine ih ?_
      rw [List.nodup_append]
      refine ⟨h, List.nodup_singleton _, fun a ha b hb => ?_⟩
      rw [List.mem_singleton.1 hb]
      rintro rfl
      exact distinctName_notMem taken name ha

/-- Names that differ already stay as they are. -/
theorem distinctNames_eq_append {taken names : List String} (h : (taken ++ names).Nodup) :
    distinctNames taken names = taken ++ names := by
  induction names generalizing taken with
  | nil => exact (List.append_nil taken).symm
  | cons name names ih =>
      have hNew : name ∉ taken := fun hTaken =>
        (List.nodup_append.1 h).2.2 name hTaken name List.mem_cons_self rfl
      have hSplit : taken ++ name :: names = (taken ++ [name]) ++ names := by simp
      rw [distinctNames, distinctName, if_neg hNew, hSplit, ih (hSplit ▸ h)]

/-- The name of a column behind columns with the given names: its own one if none of them has it,
else the one with the least number, counted from one, that none of them has. -/
inductive NameAfter (before : List String) (base : String) : String → Prop
  | own (hNew : base ∉ before) : NameAfter before base base
  | withNumber (n : Nat) (hTaken : base ∈ before) (hFirst : 1 ≤ n) (hNew : numbered base n ∉ before)
      (hLeast : ∀ m, 1 ≤ m → m < n → numbered base m ∈ before) :
      NameAfter before base (numbered base n)

theorem nameAfter_distinctName (taken : List String) (base : String) :
    NameAfter taken base (distinctName taken base) := by
  by_cases hTaken : base ∈ taken
  · obtain ⟨n, hFirst, hFound, hNew, hLeast⟩ :=
      exists_firstFree (exists_numbered_notMem taken base)
    rw [distinctName, if_pos hTaken, hFound]
    exact .withNumber n hTaken hFirst hNew hLeast
  · rw [distinctName, if_neg hTaken]
    exact .own hTaken

/-- Behind the names that are given, each further name looks at all names before its own. -/
theorem exists_distinctNames (taken bases : List String) :
    ∃ names, distinctNames taken bases = taken ++ names ∧
      ∀ (i : Nat) base name, bases[i]? = some base → names[i]? = some name →
        NameAfter (taken ++ names.take i) base name := by
  induction bases generalizing taken with
  | nil => exact ⟨[], (List.append_nil taken).symm, by simp⟩
  | cons first bases ih =>
      obtain ⟨names, hNames, hEach⟩ := ih (taken ++ [distinctName taken first])
      refine ⟨distinctName taken first :: names, ?_, ?_⟩
      · rw [distinctNames, hNames, List.append_assoc, List.singleton_append]
      · intro i base name hBase hName
        cases i with
        | zero =>
            simp only [List.getElem?_cons_zero, Option.some.injEq] at hBase hName
            rw [← hBase, ← hName, List.take_zero, List.append_nil]
            exact nameAfter_distinctName taken first
        | succ i =>
            rw [List.getElem?_cons_succ] at hBase hName
            have hName := hEach i base name hBase hName
            rwa [List.append_assoc, List.singleton_append] at hName

/-! ## Headers -/

/-- A header ends with a run of missing cells, behind the last one that has a value. -/
theorem exists_dropMissingEnd (cells : List Cell) :
    ∃ blanks, cells = dropMissingEnd cells ++ List.replicate blanks Cell.missing := by
  have hSplit := congrArg List.reverse
    (List.takeWhile_append_dropWhile (p := Cell.isMissing) (l := cells.reverse))
  rw [List.reverse_append, List.reverse_reverse] at hSplit
  refine ⟨(cells.reverse.takeWhile Cell.isMissing).length, ?_⟩
  have hBlank : (cells.reverse.takeWhile Cell.isMissing).reverse =
      List.replicate (cells.reverse.takeWhile Cell.isMissing).length Cell.missing := by
    rw [List.eq_replicate_iff, List.length_reverse]
    refine ⟨rfl, fun cell hCell => ?_⟩
    have hMissing := List.mem_takeWhile_imp (List.mem_reverse.1 hCell)
    cases cell with
    | missing => rfl
    | _ => cases hMissing
  rw [dropMissingEnd, ← hBlank, hSplit]

theorem isMissing_getLast?_dropMissingEnd {cells : List Cell} {cell : Cell}
    (h : (dropMissingEnd cells).getLast? = some cell) : cell.isMissing = false := by
  have hStop := List.head?_dropWhile_not Cell.isMissing cells.reverse
  rw [dropMissingEnd, List.getLast?_reverse] at h
  rw [h] at hStop
  simpa using hStop

theorem dropMissingEnd_eq_self {cells : List Cell} (h : ∀ cell ∈ cells, cell.isMissing = false) :
    dropMissingEnd cells = cells := by
  have hAll : cells.reverse.dropWhile Cell.isMissing = cells.reverse := by
    rw [List.dropWhile_eq_self_iff]
    intro hSome
    rw [h _ (List.mem_reverse.1 (List.getElem_mem hSome))]
    exact Bool.false_ne_true
  rw [dropMissingEnd, hAll, List.reverse_reverse]

theorem hasValue_headerName_iff {cell : Cell} :
    HasValue (headerName cell) ↔ HasValue cell.toText := by
  cases cell with
  | missing => exact iff_of_true (.ok trivial) (.ok trivial)
  | _ => exact Iff.rfl

/-- A header has names if and only if its cells up to the last one with a value have texts. -/
theorem hasValue_headerNames_iff {cells : List Cell} :
    HasValue (headerNames cells) ↔ ∀ cell ∈ dropMissingEnd cells, HasValue cell.toText := by
  constructor
  · rintro ⟨names, hNames, -⟩ cell hCell
    obtain ⟨bases, hBases, -⟩ := bind_eq_ok_iff.1 hNames
    obtain ⟨base, -, hBase⟩ := exists_value_of_mapM hBases cell hCell
    exact hasValue_headerName_iff.1 ⟨base, hBase, trivial⟩
  · intro h
    have hBases : HasValue ((dropMissingEnd cells).mapM headerName) :=
      hasValue_mapM fun cell hCell => hasValue_headerName_iff.2 (h cell hCell)
    exact hBases.bind fun _ _ => .ok trivial

/-- What the names of some header cells are: there is one for each cell, they differ, and each one
is made of the text of its cell and the names before it. -/
structure NamesColumns (cells : List Cell) (names : List String) : Prop where
  length : names.length = cells.length
  nodup : names.Nodup
  name : ∀ (i : Nat) cell name, cells[i]? = some cell → names[i]? = some name →
    ∃ base, headerName cell = .ok base ∧ NameAfter (names.take i) base name

theorem namesColumns_of_headerNames {cells : List Cell} {names : List String}
    (h : headerNames cells = .ok names) : NamesColumns (dropMissingEnd cells) names := by
  obtain ⟨bases, hBases, h⟩ := bind_eq_ok_iff.1 h
  cases h
  refine ⟨?_, nodup_distinctNames List.nodup_nil bases, fun i cell name hCell hName => ?_⟩
  · rw [length_distinctNames, List.length_nil, Nat.zero_add, length_of_mapM hBases]
  · obtain ⟨base, hBase, hText⟩ := exists_getElem?_of_forall₂ (forall₂_of_mapM hBases) hCell
    obtain ⟨names, hNames, hEach⟩ := exists_distinctNames [] bases
    rw [List.nil_append] at hNames
    rw [hNames] at hName ⊢
    exact ⟨base, hText, hEach i base name hBase hName⟩

/-- The names of a header: as many as there are cells up to the last one with a value, and all of
them different. -/
theorem succeeds_headerNames {cells : List Cell} (h : ∀ cell ∈ cells, HasValue cell.toText) :
    Succeeds (headerNames cells) fun names =>
      names.Nodup ∧ names.length = (dropMissingEnd cells).length := by
  obtain ⟨blanks, hBlanks⟩ := exists_dropMissingEnd cells
  have hNames : HasValue (headerNames cells) := by
    refine hasValue_headerNames_iff.2 fun cell hCell => h cell ?_
    rw [hBlanks]
    exact List.mem_append_left _ hCell
  refine hNames.succeeds fun names hNames => ?_
  have hColumns := namesColumns_of_headerNames hNames
  exact ⟨hColumns.nodup, hColumns.length⟩

/-- Different column names stay as they are. -/
theorem headerNames_texts {columns : List String} (h : columns.Nodup) :
    headerNames (columns.map .text) = .ok columns := by
  have hAll : dropMissingEnd (columns.map Cell.text) = columns.map .text := by
    refine dropMissingEnd_eq_self fun cell hCell => ?_
    obtain ⟨column, -, rfl⟩ := List.mem_map.1 hCell
    rfl
  have hTexts : (columns.map Cell.text).mapM headerName = .ok columns := by
    rw [List.mapM_map]
    exact (List.mapM_pure (f := id)).trans (by rw [List.map_id]; rfl)
  rw [headerNames, hAll, hTexts]
  exact congrArg Except.ok (distinctNames_eq_append (by simpa using h))

/-- **The columns of a sheet have different names**, whatever its header is. Its cells up to the
last one with a value have names exactly if they have texts. There is one name for each of them, and
the names differ: a name is the text of its cell, a placeholder if there is none, unless a column
before has this name; then it has the least number, counted from one, that makes it new. There is
such a number, so the search for it ends. Texts that differ stay as they are. -/
theorem headerNames_distinct (cells : List Cell) :
    ∃ named blanks, cells = named ++ List.replicate blanks Cell.missing ∧
      (∀ cell, named.getLast? = some cell → cell.isMissing = false) ∧
      (HasValue (headerNames cells) ↔ ∀ cell ∈ named, HasValue cell.toText) ∧
      (∀ names, headerNames cells = .ok names → NamesColumns named names) ∧
      ∀ texts : List String, texts.Nodup → cells = texts.map .text →
        headerNames cells = .ok texts := by
  obtain ⟨blanks, hBlanks⟩ := exists_dropMissingEnd cells
  refine ⟨dropMissingEnd cells, blanks, hBlanks, fun _ => isMissing_getLast?_dropMissingEnd,
    hasValue_headerNames_iff, fun _ => namesColumns_of_headerNames, ?_⟩
  rintro texts hTexts rfl
  exact headerNames_texts hTexts

/-- A header in which the text of one cell is the numbered name of another one, and the placeholder
is needed twice. -/
def numberedByHand : List Cell :=
  [.text "a", .missing, .text "a_1", .text "a", .missing, .int 7, .missing]

theorem headerNames_distinct_numberedByHand :
    ∃ named blanks, numberedByHand = named ++ List.replicate blanks Cell.missing ∧
      NamesColumns named ["a", "__EMPTY", "a_1", "a_2", "__EMPTY_1", "7"] := by
  obtain ⟨named, blanks, hBlanks, -, -, hNames, -⟩ := headerNames_distinct numberedByHand
  exact ⟨named, blanks, hBlanks, hNames _ (by decide +kernel)⟩

end TableFlow.Sheet
