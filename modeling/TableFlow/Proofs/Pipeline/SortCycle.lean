import Mathlib.Data.List.Induction
import Mathlib.Logic.Function.Iterate
import TableFlow.Proofs.Pipeline.Edits

/-!
# Toggling the sort keys

Toggling a column takes it through three states: rows are not sorted by it, they are sorted in
ascending order, they are sorted in descending order. The list of keys changes in a different way at
each of the three steps: a key is added at the end, replaced where it stands, or taken out.

Whatever columns are toggled in between, the state of a column depends on its own toggles only. The
order of the keys is told by the moments at which the columns entered the list: one that left and
came back stands behind all that were there at that time.

## Main results

* `SortConfig.Follows.toggle`: what one more toggle does to keys that follow a run of toggles.
* `Pipeline.follows_after_toggles`: what a run of toggles leaves in a pipeline.
-/

namespace TableFlow

namespace SortConfig

/-- The columns that keys name by texts. -/
def columns (keys : List SortConfig) : List String := keys.filterMap (·.column.text?)

/-- The keys whose columns are no texts. -/
def unnamed (keys : List SortConfig) : List SortConfig := keys.filter (·.column.text?.isNone)

/-- The direction of the first key on a column, if there is one. -/
def directionOf? (keys : List SortConfig) (column : String) : Option Direction :=
  (keys.find? (·.column.text? == some column)).map SortConfig.direction

/-- From no sorting to ascending to descending to no sorting. -/
def cycle : Option Direction → Option Direction
  | none => some .ascending
  | some .ascending => some .descending
  | some .descending => none

theorem directionOf?_eq_none_iff {keys : List SortConfig} {column : String} :
    directionOf? keys column = none ↔ column ∉ columns keys := by
  simp [directionOf?, columns]

/-! ## One toggle -/

/-- The three ways in which the keys change. -/
theorem toggleSort_cases (keys : List SortConfig) (column : String) :
    (directionOf? keys column = none ∧
      Configuration.toggleSort keys column = keys ++ [⟨.text column, .ascending⟩]) ∨
    (directionOf? keys column = some .ascending ∧
      Configuration.toggleSort keys column =
        keys.map fun key =>
          if key.column.text? = some column then ⟨.text column, .descending⟩ else key) ∨
    (directionOf? keys column = some .descending ∧
      Configuration.toggleSort keys column = keys.filter (·.column.text? != some column)) := by
  unfold Configuration.toggleSort directionOf?
  split
  · next hNone => exact .inl ⟨by rw [hNone]; rfl, rfl⟩
  · next hFound => exact .inr (.inl ⟨by rw [hFound]; rfl, rfl⟩)
  · next hFound => exact .inr (.inr ⟨by rw [hFound]; rfl, rfl⟩)

private theorem directionOf?_append_singleton (keys : List SortConfig) (toggled column : String) :
    directionOf? (keys ++ [⟨.text toggled, .ascending⟩]) column =
      (directionOf? keys column).or (if column = toggled then some .ascending else none) := by
  rw [directionOf?, List.find?_append, Option.map_or, directionOf?, List.find?_singleton]
  by_cases hSame : column = toggled
  · simp only [hSame, Cell.text?_text, beq_self_eq_true, if_true, Option.map_some]
  · have hOther : ((Cell.text toggled).text? == some column) = false := by
      simpa using Ne.symm hSame
    simp only [hOther, hSame, if_false, Bool.false_eq_true, Option.map_none]

private theorem text?_replaced (key : SortConfig) (toggled : String) :
    (if key.column.text? = some toggled then (⟨.text toggled, .descending⟩ : SortConfig)
      else key).column.text? = key.column.text? := by
  split
  · next hKey => exact hKey.symm
  · rfl

private theorem directionOf?_map (keys : List SortConfig) (toggled column : String) :
    directionOf? (keys.map fun key =>
        if key.column.text? = some toggled then ⟨.text toggled, .descending⟩ else key) column =
      if column = toggled then (directionOf? keys column).map fun _ => .descending
      else directionOf? keys column := by
  simp only [directionOf?, List.find?_map, Function.comp_def, text?_replaced, Option.map_map]
  cases hFound : keys.find? (·.column.text? == some column) with
  | none => simp
  | some key =>
      have hKey : key.column.text? = some column := by simpa using List.find?_some hFound
      by_cases hSame : column = toggled
      · simp [hKey, hSame]
      · simp [hKey, hSame]

private theorem directionOf?_filter (keys : List SortConfig) (toggled column : String) :
    directionOf? (keys.filter (·.column.text? != some toggled)) column =
      if column = toggled then none else directionOf? keys column := by
  by_cases hSame : column = toggled
  · rw [if_pos hSame, directionOf?_eq_none_iff]
    simp [columns, hSame]
  · have hKept : ∀ key : SortConfig, decide ((key.column.text? != some toggled) = true ∧
        (key.column.text? == some column) = true) = (key.column.text? == some column) := by
      intro key
      by_cases hKey : key.column.text? = some column
      · simp [hKey, hSame]
      · simp [hKey]
    simp only [directionOf?, List.find?_filter, hKept, if_neg hSame]

/-- The column that is toggled goes to its next state, the others stay in theirs. -/
theorem directionOf?_toggleSort (keys : List SortConfig) (toggled column : String) :
    directionOf? (Configuration.toggleSort keys toggled) column =
      if column = toggled then cycle (directionOf? keys column) else directionOf? keys column := by
  rcases toggleSort_cases keys toggled with ⟨hState, hKeys⟩ | ⟨hState, hKeys⟩ | ⟨hState, hKeys⟩
  · rw [hKeys, directionOf?_append_singleton]
    by_cases hSame : column = toggled
    · rw [if_pos hSame, if_pos hSame, hSame, hState]
      rfl
    · rw [if_neg hSame, if_neg hSame, Option.or_none]
  · rw [hKeys, directionOf?_map]
    by_cases hSame : column = toggled
    · rw [if_pos hSame, if_pos hSame, hSame, hState]
      rfl
    · rw [if_neg hSame, if_neg hSame]
  · rw [hKeys, directionOf?_filter]
    by_cases hSame : column = toggled
    · rw [if_pos hSame, if_pos hSame, hSame, hState]
      rfl
    · rw [if_neg hSame, if_neg hSame]

/-- Keys whose columns are no texts are left alone. -/
theorem unnamed_toggleSort (keys : List SortConfig) (toggled : String) :
    unnamed (Configuration.toggleSort keys toggled) = unnamed keys := by
  rcases toggleSort_cases keys toggled with ⟨-, hKeys⟩ | ⟨-, hKeys⟩ | ⟨-, hKeys⟩
  · simp [hKeys, unnamed]
  · rw [hKeys]
    clear hKeys
    induction keys with
    | nil => rfl
    | cons key keys ih =>
        simp only [unnamed, List.map_cons, List.filter_cons, text?_replaced] at ih ⊢
        rw [ih]
        split
        · next hNone =>
          have hOther : key.column.text? ≠ some toggled := by
            rintro hSame
            simp [hSame] at hNone
          rw [if_neg hOther]
        · rfl
  · rw [hKeys, unnamed, List.filter_filter]
    refine List.filter_congr fun key _ => ?_
    cases key.column.text? <;> simp

/-! ## Runs of toggles -/

/-- The state of a column after a run of toggles: it goes round as often as it is toggled itself. -/
def stateAfter (initial : List SortConfig) (toggles : List String) (column : String) :
    Option Direction :=
  cycle^[toggles.count column] (directionOf? initial column)

/-- The toggle at a position takes a column from no sorting to ascending. -/
def EntersAt (initial : List SortConfig) (toggles : List String) (column : String) (i : Nat) :
    Prop :=
  toggles[i]? = some column ∧ stateAfter initial (toggles.take i) column = none

/-- A column entered the list of keys before another one did, for the last time each; columns that
never entered are there from the start, in the order that they had then. -/
inductive EnteredBefore (initial : List SortConfig) (toggles : List String) (a b : String) : Prop
  | later {j : Nat} (hEnters : EntersAt initial toggles b j)
      (hLast : ∀ i, EntersAt initial toggles a i → i < j)
  | never (ha : ∀ i, ¬ EntersAt initial toggles a i) (hb : ∀ i, ¬ EntersAt initial toggles b i)
      (hInitial : [a, b].Sublist (columns initial))

/-- The keys that a run of toggles leaves of the initial ones: no column is there twice, each column
is in the state that its own toggles lead to, and the columns are ordered by when they entered. Keys
whose columns are no texts are not toggled. -/
structure Follows (initial : List SortConfig) (toggles : List String) (keys : List SortConfig) :
    Prop where
  nodup : (columns keys).Nodup
  state : ∀ column, directionOf? keys column = stateAfter initial toggles column
  ordered : (columns keys).Pairwise (EnteredBefore initial toggles)
  unnamed_eq : unnamed keys = unnamed initial

section

variable {initial keys : List SortConfig} {toggles : List String} {toggled column a b : String}

theorem stateAfter_append_singleton :
    stateAfter initial (toggles ++ [toggled]) column =
      if column = toggled then cycle (stateAfter initial toggles column)
      else stateAfter initial toggles column := by
  unfold stateAfter
  rw [List.count_append, List.count_singleton]
  by_cases hSame : column = toggled
  · rw [if_pos hSame, hSame, if_pos (beq_self_eq_true toggled), Function.iterate_succ_apply']
  · rw [if_neg hSame, if_neg (by simpa using Ne.symm hSame), Nat.add_zero]

theorem EntersAt.lt_length {i : Nat} (h : EntersAt initial toggles column i) :
    i < toggles.length :=
  (List.getElem?_eq_some_iff.1 h.1).1

/-- One more toggle lets the column that is toggled enter if rows are not sorted by it, and changes
nothing about earlier moments. -/
theorem entersAt_append_singleton {i : Nat} :
    EntersAt initial (toggles ++ [toggled]) column i ↔
      EntersAt initial toggles column i ∨
        i = toggles.length ∧ column = toggled ∧ stateAfter initial toggles column = none := by
  rcases Nat.lt_trichotomy i toggles.length with hLess | rfl | hGreater
  · unfold EntersAt
    rw [List.getElem?_append_left hLess, List.take_append_of_le_length (Nat.le_of_lt hLess)]
    exact (or_iff_left fun hLast => Nat.ne_of_lt hLess hLast.1).symm
  · rw [or_iff_right fun hEarlier => Nat.lt_irrefl _ hEarlier.lt_length]
    simp [EntersAt, eq_comm]
  · constructor
    · intro hEnters
      have hLength := hEnters.lt_length
      rw [List.length_append, List.length_singleton] at hLength
      omega
    · rintro (hEarlier | ⟨hLast, -⟩)
      · exact absurd hEarlier.lt_length (Nat.lt_asymm hGreater)
      · omega

/-- A toggle at which neither of two columns enters leaves their order alone. -/
theorem EnteredBefore.append_singleton (h : EnteredBefore initial toggles a b)
    (ha : ¬ (a = toggled ∧ stateAfter initial toggles a = none))
    (hb : ¬ (b = toggled ∧ stateAfter initial toggles b = none)) :
    EnteredBefore initial (toggles ++ [toggled]) a b := by
  have hSame : ∀ {column}, ¬ (column = toggled ∧ stateAfter initial toggles column = none) →
      ∀ i, EntersAt initial (toggles ++ [toggled]) column i ↔ EntersAt initial toggles column i :=
    fun hNone i => entersAt_append_singleton.trans (or_iff_left fun hLast => hNone hLast.2)
  cases h with
  | later hEnters hLast =>
      exact .later ((hSame hb _).2 hEnters) fun i hi => hLast i ((hSame ha i).1 hi)
  | never hNeverA hNeverB hInitial =>
      exact .never (fun i hi => hNeverA i ((hSame ha i).1 hi))
        (fun i hi => hNeverB i ((hSame hb i).1 hi)) hInitial

theorem follows_nil (h : (columns initial).Nodup) : Follows initial [] initial where
  nodup := h
  state _ := rfl
  ordered := by
    have hNever : ∀ column i, ¬ EntersAt initial [] column i :=
      fun column i hEnters => Nat.not_lt_zero i hEnters.lt_length
    exact List.pairwise_iff_forall_sublist.2 fun hInitial => .never (hNever _) (hNever _) hInitial
  unnamed_eq := rfl

/-- What one more toggle makes of keys that follow a run of toggles follows the longer run. -/
theorem Follows.toggle (h : Follows initial toggles keys) (toggled : String) :
    Follows initial (toggles ++ [toggled]) (Configuration.toggleSort keys toggled) := by
  have hState : ∀ column, directionOf? (Configuration.toggleSort keys toggled) column =
      stateAfter initial (toggles ++ [toggled]) column := fun column => by
    rw [directionOf?_toggleSort, h.state, stateAfter_append_singleton]
  have hStay : directionOf? keys toggled ≠ none → ∀ column,
      ¬ (column = toggled ∧ stateAfter initial toggles column = none) := by
    rintro hSome column ⟨rfl, hNone⟩
    exact hSome ((h.state column).trans hNone)
  have hUnnamed : unnamed (Configuration.toggleSort keys toggled) = unnamed initial :=
    (unnamed_toggleSort keys toggled).trans h.unnamed_eq
  rcases toggleSort_cases keys toggled with ⟨hNow, hKeys⟩ | ⟨hNow, hKeys⟩ | ⟨hNow, hKeys⟩
  · have hNew : ∀ column ∈ columns keys, column ≠ toggled := by
      rintro column hColumn rfl
      exact directionOf?_eq_none_iff.1 hNow hColumn
    have hColumns : columns (Configuration.toggleSort keys toggled) =
        columns keys ++ [toggled] := by
      rw [hKeys, columns, List.filterMap_append]
      rfl
    refine ⟨?_, hState, ?_, hUnnamed⟩
    · rw [hColumns, List.nodup_append]
      refine ⟨h.nodup, List.pairwise_singleton _ _, fun a ha b hb => ?_⟩
      exact List.mem_singleton.1 hb ▸ hNew a ha
    · rw [hColumns, List.pairwise_append]
      refine ⟨h.ordered.imp_of_mem fun ha hb hBefore => ?_, List.pairwise_singleton _ _, ?_⟩
      · exact hBefore.append_singleton (fun hEnters => hNew _ ha hEnters.1)
          fun hEnters => hNew _ hb hEnters.1
      · intro a ha b hb
        rw [List.mem_singleton.1 hb]
        have hEnters : EntersAt initial (toggles ++ [toggled]) toggled toggles.length :=
          entersAt_append_singleton.2 (.inr ⟨rfl, rfl, (h.state toggled).symm.trans hNow⟩)
        refine .later hEnters fun i hi => ?_
        rcases entersAt_append_singleton.1 hi with hEarlier | ⟨-, hSame, -⟩
        · exact hEarlier.lt_length
        · exact absurd hSame (hNew a ha)
  · have hColumns : columns (Configuration.toggleSort keys toggled) = columns keys := by
      rw [hKeys, columns, List.filterMap_map]
      exact congrArg (keys.filterMap ·) (funext fun key => text?_replaced key toggled)
    have hNone := hStay (by rw [hNow]; exact nofun)
    refine ⟨hColumns ▸ h.nodup, hState, hColumns ▸ h.ordered.imp fun hBefore => ?_, hUnnamed⟩
    exact hBefore.append_singleton (hNone _) (hNone _)
  · have hColumns : (columns (Configuration.toggleSort keys toggled)).Sublist (columns keys) := by
      rw [hKeys]
      exact List.filter_sublist.filterMap _
    have hNone := hStay (by rw [hNow]; exact nofun)
    refine ⟨h.nodup.sublist hColumns, hState, (h.ordered.sublist hColumns).imp fun hBefore => ?_,
      hUnnamed⟩
    exact hBefore.append_singleton (hNone _) (hNone _)

/-- A run of toggles leaves keys that follow it. -/
theorem follows_foldl (h : (columns initial).Nodup) (toggles : List String) :
    Follows initial toggles (toggles.foldl Configuration.toggleSort initial) := by
  induction toggles using List.reverseRecOn with
  | nil => exact follows_nil h
  | append_singleton toggles toggled ih =>
      rw [List.foldl_append]
      exact ih.toggle toggled

end

end SortConfig

namespace Pipeline

/-- Toggles of columns, as edits. -/
def toggleEdits (columns : List String) : List Edit :=
  columns.map fun column => .change (.toggleSort column)

theorem sort_after_toggles (p : Pipeline) (columns : List String) :
    (p.after (toggleEdits columns)).config.sort =
      columns.foldl Configuration.toggleSort p.config.sort := by
  induction columns using List.reverseRecOn with
  | nil => rfl
  | append_singleton columns column ih =>
      rw [toggleEdits, List.map_append, List.map_singleton, after_concat, List.foldl_append]
      obtain ⟨transformed, hEdit⟩ :=
        exists_edit_eq (p.after (toggleEdits columns)) (.change (.toggleSort column))
      rw [← toggleEdits, hEdit, ← ih]
      rfl

/-- **Toggling goes round for each column by itself.** If no column has two keys, a run of toggles
leaves keys of which the same holds. Each column has gone round as often as it was toggled, whatever
happened to the others. The columns are ordered by the moments at which they entered, each for the
last time; those that were there all the time stand in front, in their old order. It makes no
difference if rows could be computed in between. -/
theorem follows_after_toggles (p : Pipeline) (h : (SortConfig.columns p.config.sort).Nodup)
    (columns : List String) :
    SortConfig.Follows p.config.sort columns (p.after (toggleEdits columns)).config.sort := by
  rw [sort_after_toggles]
  exact SortConfig.follows_foldl h columns

/-- A pipeline that sorts by three columns. -/
def sortedByThree : Pipeline :=
  { config :=
      { sort := [⟨.text "a", .ascending⟩, ⟨.text "b", .descending⟩, ⟨.text "c", .ascending⟩] } }

/-- One column leaves and comes back, one enters, one goes all the way round. -/
theorem follows_after_toggles_sortedByThree :
    let toggles := ["b", "d", "a", "b", "d", "a", "a"]
    (SortConfig.columns sortedByThree.config.sort).Nodup ∧
      (sortedByThree.after (toggleEdits toggles)).config.sort =
        [⟨.text "c", .ascending⟩, ⟨.text "d", .descending⟩, ⟨.text "b", .ascending⟩,
          ⟨.text "a", .ascending⟩] ∧
      SortConfig.Follows sortedByThree.config.sort toggles
        (sortedByThree.after (toggleEdits toggles)).config.sort := by
  have hNodup : (SortConfig.columns sortedByThree.config.sort).Nodup := by decide
  exact ⟨hNodup, by rw [sort_after_toggles]; rfl, follows_after_toggles sortedByThree hNodup _⟩

end Pipeline

end TableFlow
