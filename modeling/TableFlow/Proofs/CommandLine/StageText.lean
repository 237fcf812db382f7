import TableFlow.CommandLine.StageText
import TableFlow.Proofs.Configuration.RoundTrip
import TableFlow.Proofs.Text.Lines
import TableFlow.Proofs.Text.Split

/-!
# Stages told by arguments

An argument of the command line tells a stage by parts with marks between them, and a part may hold
marks too. Each reader has its own convention for that. A filter is cut at the first colons, so its
last part may hold colons; a key to sort by and an aggregation are cut at the last colon, so the
column may; a pivot is split at every colon and every comma; and a formula is cut at the first
equals sign, white space around its parts left out.

Each stage can be written as such an argument, and what arguments can tell at all is read back from
its written form. Keys to sort by are apart from this: every text is read as one, and the empty text
is the only one that tells a column with an empty name.

## Main results

* `readFilter_encodes`, `readAggregation_encodes`, `readPivot_encodes`, `readFormula_encodes`: what
  arguments tell, and that the written form tells it.
* `readSort_ofSortKey_iff`: the keys to sort by that are read back.
* `arguments_tell_stages`: the readers together.
-/

namespace TableFlow.StageText

open TableFlow.Configuration (choice_name)

/-- A reader of arguments against a way to write what it reads. What can be told is read back from
the written form, and no argument is read as anything else. -/
structure Encodes {α : Type} (read : String → Except String α) (write : α → String)
    (told : α → Prop) : Prop where
  read_write : ∀ a, told a → read (write a) = .ok a
  told_of_read : ∀ text a, read text = .ok a → told a

/-! ## Cutting once -/

theorem partition_append {mark : Char} {before : List Char} (after : List Char)
    (h : mark ∉ before) : partition mark (before ++ mark :: after) = (before, after) := by
  rw [partition, Text.cutFirst?_eq_some after h]
  rfl

theorem not_mem_partition (mark : Char) (cs : List Char) : mark ∉ (partition mark cs).1 := by
  unfold partition
  cases hCut : Text.cutFirst? mark cs with
  | none => exact Text.cutFirst?_eq_none_iff.1 hCut
  | some parts => exact (Text.cutFirst?_eq_some_iff.1 hCut).2

/-! ## Filters -/

/-- A filter as an argument. -/
def ofFilter (filter : Filter) : String :=
  filter.column ++ ":" ++ filter.operator ++ ":" ++ filter.value ++
    match filter.value2 with
    | none => ""
    | some value2 => ":" ++ value2

/-- The filters that arguments tell. The last part may hold colons: the value, or the second value
of the operator `between`. -/
structure TellsFilter (filter : Filter) : Prop where
  column : ':' ∉ filter.column.toList
  operator : ':' ∉ filter.operator.toList
  value2 : filter.value2.isSome ↔ filter.operator = "between"
  value : filter.operator = "between" → ':' ∉ filter.value.toList

theorem readFilter_append {column operator : String} (value : String)
    (hColumn : ':' ∉ column.toList) (hOperator : ':' ∉ operator.toList) :
    readFilter (column ++ ":" ++ operator ++ ":" ++ value) =
      if operator = "between" then
        .ok { column, operator, value := String.ofList (partition ':' value.toList).1
              value2 := some (String.ofList (partition ':' value.toList).2) }
      else .ok { column, operator, value } := by
  have hText : (column ++ ":" ++ operator ++ ":" ++ value).toList =
      column.toList ++ ':' :: (operator.toList ++ ':' :: value.toList) := by
    simp
  unfold readFilter
  rw [hText, Text.cutFirst?_eq_some _ hColumn]
  simp only [partition_append _ hOperator, String.ofList_toList]

theorem readFilter_encodes : Encodes readFilter ofFilter TellsFilter where
  read_write filter h := by
    obtain ⟨column, operator, value, value2⟩ := filter
    have hEnds := h.value2
    cases value2 with
    | none =>
        have hOther : operator ≠ "between" := by simpa using hEnds
        rw [ofFilter, String.append_empty, readFilter_append value h.column h.operator,
          if_neg hOther]
    | some value2 =>
        obtain rfl : operator = "between" := by simpa using hEnds
        have hCut : partition ':' (value ++ (":" ++ value2)).toList =
            (value.toList, value2.toList) := by
          simpa using partition_append value2.toList (h.value rfl)
        rw [ofFilter, String.append_assoc, readFilter_append _ h.column h.operator, if_pos rfl,
          hCut]
        simp only [String.ofList_toList]
  told_of_read text filter h := by
    unfold readFilter at h
    cases hCut : Text.cutFirst? ':' text.toList with
    | none => simp [hCut] at h
    | some parts =>
        obtain ⟨column, rest⟩ := parts
        have hColumn : ':' ∉ column := (Text.cutFirst?_eq_some_iff.1 hCut).2
        have hOperator : ':' ∉ (partition ':' rest).1 := not_mem_partition ':' rest
        simp only [hCut] at h
        split at h
        · next hBetween =>
          cases h
          exact
            { column := by simpa using hColumn
              operator := by simpa using hOperator
              value2 := by simpa using hBetween
              value := fun _ => by simpa using not_mem_partition ':' _ }
        · next hOther =>
          cases h
          exact
            { column := by simpa using hColumn
              operator := by simpa using hOperator
              value2 := by simpa using hOther
              value := fun hBetween => absurd hBetween hOther }

/-! ## Keys to sort by -/

/-- A key to sort by as an argument. -/
def ofSortKey (key : SortKey) : String := key.column ++ ":" ++ key.direction.name

theorem cutLast?_append (column : String) {last : String} (h : ':' ∉ last.toList) :
    Text.cutLast? ':' (column ++ ":" ++ last).toList = some (column.toList, last.toList) := by
  rw [← Text.cutLast?_eq_some column.toList h]
  simp

/-- The column may hold colons, but not be empty: a direction alone is read as a column. -/
theorem readSort_ofSortKey_iff (key : SortKey) :
    readSort (ofSortKey key) = key ↔ key.column ≠ "" := by
  have hDirection : ':' ∉ key.direction.name.toList := by
    cases key.direction <;> decide
  unfold readSort
  rw [ofSortKey, cutLast?_append key.column hDirection]
  simp only [String.ofList_toList, Direction.ofName?_name]
  by_cases hColumn : key.column = ""
  · rw [if_pos (by simp [hColumn])]
    refine iff_of_false (fun hSame => ?_) (not_not.2 hColumn)
    have hEmpty : key.column ++ ":" ++ key.direction.name = "" :=
      (congrArg SortKey.column hSame).trans hColumn
    simp at hEmpty
  · rw [if_neg (by simpa using hColumn)]
    exact iff_of_true rfl hColumn

/-! ## Aggregations -/

/-- An aggregation as an argument. -/
def ofAggregation (aggregation : Aggregation) : String :=
  aggregation.column ++ ":" ++ Aggregation.operationName aggregation.operation

theorem readAggregation_encodes :
    Encodes readAggregation ofAggregation fun aggregation => aggregation.column ≠ "" where
  read_write aggregation h := by
    have hOperation : ':' ∉ (Aggregation.operationName aggregation.operation).toList := by
      cases aggregation.operation <;> decide
    have hRead : Aggregation.readOperation
        (.text (Aggregation.operationName aggregation.operation)) = .ok aggregation.operation :=
      choice_name (Aggregation.operationOfName?_operationName _) _ _
    obtain ⟨c, rest, hColumn⟩ := List.exists_cons_of_ne_nil (String.toList_eq_nil_iff.not.2 h)
    unfold readAggregation
    rw [ofAggregation, cutLast?_append aggregation.column hOperation, hColumn]
    simp only [String.ofList_toList, hRead, ← hColumn]
  told_of_read text aggregation h := by
    unfold readAggregation at h
    split at h
    · next c rest operation hCut =>
      cases hRead : Aggregation.readOperation (.text (String.ofList operation)) with
      | error e => simp [hRead] at h
      | ok operation =>
          simp only [hRead, Except.ok.injEq] at h
          subst h
          simp
    · cases h

/-! ## Pivots -/

/-- A pivot as an argument. -/
def ofPivot (pivot : Pivot) : String :=
  ",".intercalate pivot.rows ++ ":" ++ ",".intercalate pivot.values ++ ":" ++
    pivot.aggregation.name

/-- A name that can stand in the lists of an argument. -/
structure Listed (name : String) : Prop where
  nonempty : name ≠ ""
  colon : ':' ∉ name.toList
  comma : ',' ∉ name.toList

theorem readNames_join {names : List String} (h : ∀ name ∈ names, Listed name) :
    readNames (Text.join [','] (names.map String.toList)) = names := by
  unfold readNames
  by_cases hNone : names = []
  · subst hNone
    rfl
  · have hPieces : Text.splitOn [','] (Text.join [','] (names.map String.toList)) =
        names.map String.toList := by
      rw [Text.splitOn_singleton_eq_iff]
      refine ⟨rfl, by simpa using hNone, fun piece hPiece => ?_⟩
      obtain ⟨name, hName, rfl⟩ := List.mem_map.1 hPiece
      exact (h name hName).comma
    have hKept : (names.map String.toList).filter (!·.isEmpty) = names.map String.toList := by
      refine List.filter_eq_self.2 fun piece hPiece => ?_
      obtain ⟨name, hName, rfl⟩ := List.mem_map.1 hPiece
      simpa using (h name hName).nonempty
    rw [hPieces, hKept]
    simp

theorem listed_of_mem_readNames {cs : List Char} {name : String} (hColon : ':' ∉ cs)
    (h : name ∈ readNames cs) : Listed name := by
  unfold readNames at h
  obtain ⟨piece, hPiece, rfl⟩ := List.mem_map.1 h
  obtain ⟨hPiece, hNonempty⟩ := List.mem_filter.1 hPiece
  obtain ⟨hJoin, -, hComma⟩ := Text.splitOn_singleton_eq_iff.1 (Eq.refl (Text.splitOn [','] cs))
  have hWithin : piece ⊆ cs := by
    rw [hJoin]
    exact Text.subset_join hPiece
  exact
    { nonempty := by simpa using hNonempty
      colon := by simpa using fun hc => hColon (hWithin hc)
      comma := by simpa using hComma piece hPiece }

theorem colon_not_mem_join {names : List String} (h : ∀ name ∈ names, Listed name) :
    ':' ∉ Text.join [','] (names.map String.toList) := by
  rw [Text.join_eq_intercalate, ← List.disjoint_singleton]
  refine Text.disjoint_intercalate (by simp) fun piece hPiece => ?_
  obtain ⟨name, hName, rfl⟩ := List.mem_map.1 hPiece
  exact List.disjoint_singleton.2 (h name hName).colon

theorem readPivot_encodes :
    Encodes readPivot ofPivot fun pivot =>
      pivot.columns = [] ∧ ∀ name ∈ pivot.rows ++ pivot.values, Listed name where
  read_write := by
    rintro ⟨rows, columns, values, aggregation⟩ ⟨hColumns, hNames⟩
    obtain ⟨hRows, hValues⟩ := List.forall_mem_append.1 hNames
    have hAggregation : ':' ∉ aggregation.name.toList := by
      cases aggregation <;> decide
    have hRead : Pivot.readAggregation (.text aggregation.name) = .ok aggregation :=
      choice_name aggregation.ofName?_name _ _
    have hParts : Text.splitOn [':'] (ofPivot ⟨rows, columns, values, aggregation⟩).toList =
        [Text.join [','] (rows.map String.toList), Text.join [','] (values.map String.toList),
          aggregation.name.toList] := by
      rw [Text.splitOn_singleton_eq_iff]
      refine ⟨?_, List.cons_ne_nil _ _, ?_⟩
      · simp [ofPivot, Text.join_eq_intercalate]
      · simp [colon_not_mem_join hRows, colon_not_mem_join hValues, hAggregation]
    unfold readPivot
    rw [hParts]
    simp only [String.ofList_toList, hRead, readNames_join hRows, readNames_join hValues]
    rw [show columns = [] from hColumns]
  told_of_read text pivot h := by
    unfold readPivot at h
    split at h
    · next rows values aggregation hParts =>
      obtain ⟨-, -, hColon⟩ := Text.splitOn_singleton_eq_iff.1 hParts
      cases hRead : Pivot.readAggregation (.text (String.ofList aggregation)) with
      | error e => simp [hRead] at h
      | ok operation =>
          simp only [hRead, Except.ok.injEq] at h
          subst h
          refine ⟨rfl, fun name hName => ?_⟩
          rcases List.mem_append.1 hName with hRow | hValue
          · exact listed_of_mem_readNames (hColon rows (by simp)) hRow
          · exact listed_of_mem_readNames (hColon values (by simp)) hValue
    · cases h

/-! ## Formulas -/

/-- The name of a computed column and its formula as an argument. -/
def ofFormula (column : String × String) : String := column.1 ++ "=" ++ column.2

/-- Text without white space at its ends. -/
structure Trimmed (s : String) : Prop where
  first : ∀ c, s.toList.head? = some c → Text.isBlank c = false
  last : ∀ c, s.toList.getLast? = some c → Text.isBlank c = false

theorem Trimmed.strip_eq {s : String} (h : Trimmed s) : Text.strip s.toList = s.toList :=
  Text.strip_eq_self h.first h.last

theorem trimmed_strip (cs : List Char) : Trimmed (String.ofList (Text.strip cs)) where
  first c hc := Text.isBlank_head?_strip (by simpa using hc)
  last c hc := Text.isBlank_getLast?_strip (by simpa using hc)

theorem readFormula_encodes :
    Encodes readFormula ofFormula fun (name, formula) =>
      '=' ∉ name.toList ∧ Trimmed name ∧ Trimmed formula where
  read_write := fun (name, formula) ⟨hMark, hName, hFormula⟩ => by
    have hText : (ofFormula (name, formula)).toList = name.toList ++ '=' :: formula.toList := by
      simp [ofFormula]
    unfold readFormula
    rw [hText, Text.cutFirst?_eq_some _ hMark]
    simp only [hName.strip_eq, hFormula.strip_eq, String.ofList_toList]
  told_of_read := fun text (name, formula) h => by
    unfold readFormula at h
    cases hCut : Text.cutFirst? '=' text.toList with
    | none => simp [hCut] at h
    | some parts =>
        obtain ⟨front, back⟩ := parts
        have hMark : '=' ∉ front := (Text.cutFirst?_eq_some_iff.1 hCut).2
        simp only [hCut] at h
        cases h
        refine ⟨?_, trimmed_strip front, trimmed_strip back⟩
        rw [String.toList_ofList]
        exact fun hc => hMark (Text.mem_of_mem_strip hc)

/-! ## All stages -/

/-- **What arguments can tell is read back from its written form, for every kind of stage.** Marks
may stand in the value of a filter, or in the second one if it has two, in the column of a key to
sort by and of an aggregation, and in a formula. -/
theorem arguments_tell_stages :
    Encodes readFilter ofFilter TellsFilter ∧
      (∀ key : SortKey, readSort (ofSortKey key) = key ↔ key.column ≠ "") ∧
      (Encodes readAggregation ofAggregation fun aggregation => aggregation.column ≠ "") ∧
      (Encodes readPivot ofPivot fun pivot =>
        pivot.columns = [] ∧ ∀ name ∈ pivot.rows ++ pivot.values, Listed name) ∧
      Encodes readFormula ofFormula fun (name, formula) =>
        '=' ∉ name.toList ∧ Trimmed name ∧ Trimmed formula :=
  ⟨readFilter_encodes, readSort_ofSortKey_iff, readAggregation_encodes, readPivot_encodes,
    readFormula_encodes⟩

/-- Marks in the second value of a filter, in the columns of a key and of an aggregation, and in a
formula; a pivot over several columns. -/
theorem arguments_tell_marks :
    readFilter "at:between:9:10:30" = .ok ⟨"at", "between", "9", some "10:30"⟩ ∧
      readSort "from:to:desc" = ⟨"from:to", .descending⟩ ∧
      readAggregation "from:to:median" = .ok ⟨"from:to", .median⟩ ∧
      readPivot "city,shop:sold,left:avg" =
        .ok { rows := ["city", "shop"], values := ["sold", "left"], aggregation := .average } ∧
      readFormula "same=a == b" = .ok ("same", "a == b") := by
  obtain ⟨hFilter, hSort, hAggregation, hPivot, hFormula⟩ := arguments_tell_stages
  refine ⟨?_, ?_, ?_, ?_, ?_⟩
  · exact hFilter.read_write ⟨"at", "between", "9", some "10:30"⟩
      ⟨by decide, by decide, by decide, by decide⟩
  · exact (hSort ⟨"from:to", .descending⟩).2 (by decide)
  · exact hAggregation.read_write ⟨"from:to", .median⟩ (by decide)
  · refine hPivot.read_write
      { rows := ["city", "shop"], values := ["sold", "left"], aggregation := .average }
      ⟨rfl, fun name hName => ?_⟩
    simp only [List.cons_append, List.nil_append, List.mem_cons, List.not_mem_nil,
      or_false] at hName
    rcases hName with rfl | rfl | rfl | rfl <;> exact ⟨by decide, by decide, by decide⟩
  · have hName : Trimmed "same" := ⟨by simp; decide, by simp; decide⟩
    have hText : Trimmed "a == b" := ⟨by simp; decide, by simp; decide⟩
    exact hFormula.read_write ("same", "a == b") ⟨by decide, hName, hText⟩

end TableFlow.StageText
