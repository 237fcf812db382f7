import Mathlib.Data.List.Induction
import TableFlow.Grouping
import TableFlow.Proofs.Success

/-!
# Groups are the elements with one key

Groups are built by adding one element after the other. What comes out can be said at once: there is
one group for each key, in the order in which the keys occur first, and it holds the elements with
that key, in their order.

## Main results

* `Groups.ofKeyed_eq`: the groups of keyed elements.
* `listsNames_firstOccurrences`: what first occurrences are, said without going through a list.
* `groupRows_eq`: the groups of rows, each with the rows of its key.
* `hasValue_summarizeBy`: rows that are made of groups.
-/

namespace TableFlow

/-! ## First occurrences -/

theorem firstOccurrences_concat (names : List String) (name : String) :
    firstOccurrences (names ++ [name]) =
      if name ∈ firstOccurrences names then firstOccurrences names
      else firstOccurrences names ++ [name] := by
  by_cases hSeen : name ∈ firstOccurrences names
  · rw [if_pos hSeen]
    unfold firstOccurrences at *
    rw [List.foldl_append, List.foldl_cons, List.foldl_nil, if_pos hSeen]
  · rw [if_neg hSeen]
    unfold firstOccurrences at *
    rw [List.foldl_append, List.foldl_cons, List.foldl_nil, if_neg hSeen]

theorem mem_firstOccurrences {names : List String} {name : String} :
    name ∈ firstOccurrences names ↔ name ∈ names := by
  induction names using List.reverseRecOn with
  | nil => rfl
  | append_singleton names last ih =>
      rw [firstOccurrences_concat, List.mem_append, List.mem_singleton]
      split
      · next hSeen =>
        rw [ih, iff_self_or]
        rintro rfl
        exact ih.1 hSeen
      · rw [List.mem_append, List.mem_singleton, ih]

theorem nodup_firstOccurrences (names : List String) : (firstOccurrences names).Nodup := by
  induction names using List.reverseRecOn with
  | nil => exact List.nodup_nil
  | append_singleton names last ih =>
      rw [firstOccurrences_concat]
      split
      · exact ih
      · next hNew =>
        rw [List.nodup_append]
        refine ⟨ih, by simp, fun name hName other hOther => ?_⟩
        rw [List.mem_singleton.1 hOther]
        exact fun hSame => hNew (hSame ▸ hName)

/-- The names of a list, each once, in the order in which they occur first. -/
structure ListsNames (distinct names : List String) : Prop where
  mem_iff : ∀ name, name ∈ distinct ↔ name ∈ names
  pairwise : distinct.Pairwise fun a b => names.idxOf a < names.idxOf b

theorem ListsNames.nodup {distinct names : List String} (h : ListsNames distinct names) :
    distinct.Nodup :=
  h.pairwise.imp fun hBefore hSame => by
    rw [hSame] at hBefore
    exact Nat.lt_irrefl _ hBefore

theorem listsNames_firstOccurrences (names : List String) :
    ListsNames (firstOccurrences names) names where
  mem_iff _ := mem_firstOccurrences
  pairwise := by
    induction names using List.reverseRecOn with
    | nil => exact .nil
    | append_singleton names last ih =>
        have hBefore : (firstOccurrences names).Pairwise fun a b =>
            (names ++ [last]).idxOf a < (names ++ [last]).idxOf b := by
          refine ih.imp_of_mem fun ha hb hIndex => ?_
          rwa [List.idxOf_append_of_mem (mem_firstOccurrences.1 ha),
            List.idxOf_append_of_mem (mem_firstOccurrences.1 hb)]
        rw [firstOccurrences_concat]
        split
        · exact hBefore
        · next hNew =>
          refine List.pairwise_append.2 ⟨hBefore, List.pairwise_singleton _ _, fun a ha b hb => ?_⟩
          rw [List.mem_singleton.1 hb,
            List.idxOf_append_of_notMem fun hOld => hNew (mem_firstOccurrences.2 hOld),
            List.idxOf_append_of_mem (mem_firstOccurrences.1 ha)]
          exact Nat.lt_of_lt_of_le (List.idxOf_lt_length_of_mem (mem_firstOccurrences.1 ha))
            (Nat.le_add_right _ _)

/-! ## Groups -/

namespace Groups

variable {α : Type}

/-- Adding an element to groups with different keys: it goes to the end of the group of its key, or
into a new group. -/
theorem insert_eq {keys : List String} (hNodup : keys.Nodup) (members : String → List α)
    (key : String) (x : α) :
    Groups.insert (keys.map fun k => (k, members k)) key x =
      if key ∈ keys then keys.map fun k => (k, if k = key then members k ++ [x] else members k)
      else keys.map (fun k => (k, members k)) ++ [(key, [x])] := by
  induction keys with
  | nil => rfl
  | cons first keys ih =>
      obtain ⟨hFirst, hRest⟩ := List.nodup_cons.1 hNodup
      rw [List.map_cons, Groups.insert, ih hRest]
      by_cases hKey : first = key
      · subst hKey
        have hOthers : (keys.map fun k => (k, if k = first then members k ++ [x] else members k)) =
            keys.map fun k => (k, members k) := by
          refine List.map_congr_left fun k hk => ?_
          rw [if_neg]
          rintro rfl
          exact hFirst hk
        simp [hOthers]
      · simp only [hKey, if_false, List.mem_cons, Ne.symm hKey, false_or, List.map_cons]
        split <;> rfl

/-- The groups of keyed elements: one for each key, with the elements of that key. -/
theorem ofKeyed_eq (keyed : List (String × α)) :
    ofKeyed keyed = (firstOccurrences (keyed.map Prod.fst)).map fun key =>
      (key, (keyed.filter fun entry => entry.1 = key).map Prod.snd) := by
  induction keyed using List.reverseRecOn with
  | nil => rfl
  | append_singleton keyed last ih =>
      obtain ⟨key, x⟩ := last
      have hInsert : ofKeyed (keyed ++ [(key, x)]) = (ofKeyed keyed).insert key x := by
        simp only [ofKeyed, List.foldl_append, List.foldl_cons, List.foldl_nil]
      rw [hInsert, ih, insert_eq (nodup_firstOccurrences _), List.map_append, List.map_singleton,
        firstOccurrences_concat]
      split
      · refine List.map_congr_left fun k hk => ?_
        by_cases hKey : k = key
        · simp [hKey]
        · simp [hKey, Ne.symm hKey]
      · next hNew =>
        have hOthers : ∀ k ∈ firstOccurrences (keyed.map Prod.fst), key ≠ k := by
          rintro k hk rfl
          exact hNew hk
        have hNone : keyed.filter (fun entry => entry.1 = key) = [] := by
          rw [List.filter_eq_nil_iff]
          intro entry hEntry hKey
          refine hNew (mem_firstOccurrences.2 ?_)
          exact List.mem_map.2 ⟨entry, hEntry, of_decide_eq_true hKey⟩
        rw [List.map_append, List.map_singleton]
        congr 1
        · refine List.map_congr_left fun k hk => ?_
          simp [hOthers k hk]
        · simp [hNone]

end Groups

/-! ## Rows -/

section

variable {key : Row → Except Fault String} {rows : List Row}

private theorem mapM_keyed {keys : List String} (h : rows.mapM key = .ok keys) :
    (rows.mapM fun row => do
      let k ← key row
      .ok (k, row)) = .ok (keys.zip rows) := by
  induction rows generalizing keys with
  | nil =>
      cases h
      rfl
  | cons row rows ih =>
      rw [List.mapM_cons] at h
      obtain ⟨k, hKey, h⟩ := bind_eq_ok_iff.1 h
      obtain ⟨others, hOthers, h⟩ := bind_eq_ok_iff.1 h
      cases h
      rw [List.mapM_cons, ih hOthers, hKey]
      rfl

private theorem map_snd_filter_zip {keys : List String} (h : rows.mapM key = .ok keys)
    (k : String) : ((keys.zip rows).filter fun entry => entry.1 = k).map Prod.snd =
      rows.filter fun row => key row = .ok k := by
  induction rows generalizing keys with
  | nil =>
      cases h
      rfl
  | cons row rows ih =>
      rw [List.mapM_cons] at h
      obtain ⟨k', hKey, h⟩ := bind_eq_ok_iff.1 h
      obtain ⟨others, hOthers, h⟩ := bind_eq_ok_iff.1 h
      cases h
      rw [List.zip_cons_cons, List.filter_cons, List.filter_cons, hKey]
      simp only [Except.ok.injEq, decide_eq_true_eq]
      split
      · exact congrArg (row :: ·) (ih hOthers)
      · exact ih hOthers

/-- Rows with keys have one group for each key, in the order in which the keys occur first. -/
theorem groupRows_eq {keys : List String} (h : rows.mapM key = .ok keys) :
    groupRows key rows = .ok ((firstOccurrences keys).map fun k =>
      (k, rows.filter fun row => key row = .ok k)) := by
  rw [groupRows, mapM_keyed h]
  show Except.ok (Groups.ofKeyed (keys.zip rows)) = _
  rw [Groups.ofKeyed_eq, List.map_fst_zip (Nat.le_of_eq (length_of_mapM h))]
  exact congrArg Except.ok (List.map_congr_left fun k _ => by rw [map_snd_filter_zip h])

/-- Rows with keys have one group for each key, with the rows of that key, in their order. -/
theorem exists_groupRows_eq (h : ∀ row ∈ rows, HasValue (key row)) :
    ∃ keys : List String, keys.Nodup ∧ (∀ k, k ∈ keys ↔ ∃ row ∈ rows, key row = .ok k) ∧
      groupRows key rows =
        .ok (keys.map fun k => (k, rows.filter fun row => key row = .ok k)) := by
  obtain ⟨keys, hKeys, -⟩ := hasValue_mapM h
  refine ⟨_, nodup_firstOccurrences keys, fun k => ?_, groupRows_eq hKeys⟩
  rw [mem_firstOccurrences, mem_of_mapM hKeys]

/-- A group holds rows of the list, in their order. -/
theorem succeeds_groupRows (h : ∀ row ∈ rows, HasValue (key row)) :
    Succeeds (groupRows key rows) fun groups => ∀ group ∈ groups, group.2.Sublist rows := by
  obtain ⟨keys, -, -, hGroups⟩ := exists_groupRows_eq h
  refine ⟨_, hGroups, fun group hGroup => ?_⟩
  obtain ⟨k, -, rfl⟩ := List.mem_map.1 hGroup
  exact List.filter_sublist

end

/-! ## Rows made of groups -/

/-- Makes a row of each group of rows with equal keys. -/
def summarizeBy (key : Row → Except Fault String) (summary : String → List Row → Except Fault Row)
    (rows : List Row) : Except Fault (List Row) := do
  let groups ← groupRows key rows
  groups.mapM fun (k, group) => summary k group

section

variable {key : Row → Except Fault String} {summary : String → List Row → Except Fault Row}
  {rows : List Row}

theorem hasValue_summarizeBy (hKey : ∀ row ∈ rows, HasValue (key row))
    (hSummary : ∀ k group, group.Sublist rows → HasValue (summary k group)) :
    HasValue (summarizeBy key summary rows) :=
  (succeeds_groupRows hKey).bind fun _ hGroups =>
    hasValue_mapM fun group hGroup => hSummary group.1 group.2 (hGroups group hGroup)

/-- Each row is the summary of a group. -/
theorem exists_of_mem_summarizeBy {out : List Row} (h : summarizeBy key summary rows = .ok out) :
    ∀ row ∈ out, ∃ k group, summary k group = .ok row := by
  obtain ⟨groups, -, h⟩ := bind_eq_ok_iff.1 h
  intro row hRow
  obtain ⟨group, -, hSummary⟩ := exists_of_mem_mapM h row hRow
  exact ⟨group.1, group.2, hSummary⟩

end

end TableFlow
