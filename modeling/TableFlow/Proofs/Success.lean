import Mathlib.Data.List.Forall2
import TableFlow.MergeSort

/-!
# Results that are no errors

`Succeeds result good` says that a result is a value with a property. It goes through the binding of
results, through maps over lists, and through sorting: where each step succeeds, the whole does.

## Main results

* `bind_eq_ok_iff`, `forall₂_of_mapM` and `foldlM_eq_error_iff`: what a result tells of the steps.
* `succeeds_mapM`: a map whose function succeeds on every element.
* `succeeds_mergeSortM`: sorting by a comparison that succeeds on all pairs of elements.
-/

namespace TableFlow

variable {α β ε : Type}

instance decidableEqResult {ε α : Type} [DecidableEq ε] [DecidableEq α] :
    DecidableEq (Except ε α)
  | .ok a, .ok b => decidable_of_iff (a = b) ⟨congrArg Except.ok, Except.ok.inj⟩
  | .error e, .error f => decidable_of_iff (e = f) ⟨congrArg Except.error, Except.error.inj⟩
  | .ok _, .error _ => .isFalse (by rintro ⟨⟩)
  | .error _, .ok _ => .isFalse (by rintro ⟨⟩)

/-- The result is a value with the property. -/
def Succeeds (result : Except ε α) (good : α → Prop) : Prop := ∃ a, result = .ok a ∧ good a

/-- The result is a value. -/
abbrev HasValue (result : Except ε α) : Prop := Succeeds result fun _ => True

instance decidableSucceeds {good : α → Prop} [DecidablePred good] :
    (result : Except ε α) → Decidable (Succeeds result good)
  | .ok a => decidable_of_iff (good a)
      ⟨fun h => ⟨a, rfl, h⟩, by
        rintro ⟨_, ⟨⟩, h⟩
        exact h⟩
  | .error _ => .isFalse (by rintro ⟨_, ⟨⟩, _⟩)

theorem Succeeds.ok {good : α → Prop} {a : α} (h : good a) : Succeeds (.ok a : Except ε α) good :=
  ⟨a, rfl, h⟩

theorem Succeeds.mono {result : Except ε α} {good good' : α → Prop} (h : Succeeds result good)
    (hMono : ∀ a, good a → good' a) : Succeeds result good' := by
  obtain ⟨a, hResult, hGood⟩ := h
  exact ⟨a, hResult, hMono a hGood⟩

theorem Succeeds.hasValue {result : Except ε α} {good : α → Prop} (h : Succeeds result good) :
    HasValue result :=
  h.mono fun _ _ => trivial

/-- What is known of the value of a result is known as soon as there is one. -/
theorem HasValue.succeeds {result : Except ε α} {good : α → Prop} (h : HasValue result)
    (hGood : ∀ a, result = .ok a → good a) : Succeeds result good := by
  obtain ⟨a, hResult, -⟩ := h
  exact ⟨a, hResult, hGood a hResult⟩

theorem Succeeds.bind {result : Except ε α} {next : α → Except ε β} {good : α → Prop}
    {good' : β → Prop} (h : Succeeds result good)
    (hNext : ∀ a, good a → Succeeds (next a) good') : Succeeds (result >>= next) good' := by
  obtain ⟨a, rfl, hGood⟩ := h
  exact hNext a hGood

/-- Two results that are bound have a value if and only if both have one. -/
theorem bind_eq_ok_iff {result : Except ε α} {next : α → Except ε β} {b : β} :
    result >>= next = .ok b ↔ ∃ a, result = .ok a ∧ next a = .ok b := by
  constructor
  · intro h
    cases result with
    | error cause => cases h
    | ok a => exact ⟨a, rfl, h⟩
  · rintro ⟨a, rfl, h⟩
    exact h

/-! ## Lists -/

theorem succeeds_mapM {f : α → Except ε β} {good : β → Prop} {xs : List α}
    (h : ∀ x ∈ xs, Succeeds (f x) good) :
    Succeeds (xs.mapM f) fun ys => ys.length = xs.length ∧ ∀ y ∈ ys, good y := by
  induction xs with
  | nil => exact .ok ⟨rfl, by simp⟩
  | cons x xs ih =>
      obtain ⟨hFirst, hRest⟩ := List.forall_mem_cons.1 h
      rw [List.mapM_cons]
      refine hFirst.bind fun y hy => (ih hRest).bind fun ys hys => ?_
      exact .ok ⟨congrArg (· + 1) hys.1, List.forall_mem_cons.2 ⟨hy, hys.2⟩⟩

theorem hasValue_mapM {f : α → Except ε β} {xs : List α} (h : ∀ x ∈ xs, HasValue (f x)) :
    HasValue (xs.mapM f) :=
  (succeeds_mapM h).hasValue

/-- A map whose function succeeds on every element gives values that are related to the elements. -/
theorem succeeds_mapM_forall₂ {f : α → Except ε β} {R : α → β → Prop} {xs : List α}
    (h : ∀ x ∈ xs, Succeeds (f x) (R x)) : Succeeds (xs.mapM f) (List.Forall₂ R xs) := by
  induction xs with
  | nil => exact .ok .nil
  | cons x xs ih =>
      obtain ⟨hFirst, hRest⟩ := List.forall_mem_cons.1 h
      rw [List.mapM_cons]
      exact hFirst.bind fun y hy => (ih hRest).bind fun ys hys => .ok (.cons hy hys)

/-- A map whose function has a value on every element, and each value a sense for its element. -/
theorem exists_mapM {γ : Type} {f : α → Except ε β} {R : β → γ → Prop} {S : α → γ → Prop}
    {xs : List α} (h : ∀ x ∈ xs, ∃ y z, f x = .ok y ∧ R y z ∧ S x z) :
    ∃ ys zs, xs.mapM f = .ok ys ∧ List.Forall₂ R ys zs ∧ List.Forall₂ S xs zs := by
  induction xs with
  | nil => exact ⟨[], [], rfl, .nil, .nil⟩
  | cons x xs ih =>
      obtain ⟨⟨y, z, hFirst, hValue, hSense⟩, hRest⟩ := List.forall_mem_cons.1 h
      obtain ⟨ys, zs, hOthers, hValues, hSenses⟩ := ih hRest
      refine ⟨y :: ys, z :: zs, ?_, .cons hValue hValues, .cons hSense hSenses⟩
      rw [List.mapM_cons, hFirst, hOthers]
      rfl

theorem mapM_congr_left {f g : α → Except ε β} {xs : List α} (h : ∀ x ∈ xs, f x = g x) :
    xs.mapM f = xs.mapM g := by
  induction xs with
  | nil => rfl
  | cons x xs ih =>
      obtain ⟨hFirst, hRest⟩ := List.forall_mem_cons.1 h
      rw [List.mapM_cons, List.mapM_cons, hFirst, ih hRest]

/-- Of two lists that are related element by element, each element of the second one is related to
an element of the first one. -/
theorem exists_of_mem_of_forall₂ {R : α → β → Prop} {xs : List α} {ys : List β}
    (h : List.Forall₂ R xs ys) : ∀ y ∈ ys, ∃ x ∈ xs, R x y := by
  induction h with
  | nil => simp
  | cons hFirst hRest ih =>
      refine List.forall_mem_cons.2 ⟨⟨_, List.mem_cons_self, hFirst⟩, fun y hy => ?_⟩
      obtain ⟨x, hx, hRelated⟩ := ih y hy
      exact ⟨x, List.mem_cons_of_mem _ hx, hRelated⟩

/-- Lists that are related element by element have related elements in the same places. -/
theorem exists_getElem?_of_forall₂ {R : α → β → Prop} {xs : List α} {ys : List β}
    (h : List.Forall₂ R xs ys) {i : Nat} {x : α} (hx : xs[i]? = some x) :
    ∃ y, ys[i]? = some y ∧ R x y := by
  induction h generalizing i with
  | nil => cases hx
  | cons hFirst _ ih =>
      cases i with
      | zero =>
          cases hx
          exact ⟨_, rfl, hFirst⟩
      | succ i => exact ih hx

/-- Lists that are related element by element are mapped alike, if related elements are. -/
theorem map_eq_map_of_forall₂ {γ : Type} {R : α → β → Prop} {left : α → γ} {right : β → γ}
    {xs : List α} {ys : List β} (h : List.Forall₂ R xs ys)
    (hEach : ∀ x y, R x y → left x = right y) : xs.map left = ys.map right := by
  induction h with
  | nil => rfl
  | cons hFirst _ ih => rw [List.map_cons, List.map_cons, hEach _ _ hFirst, ih]

/-- Lists that are related element by element to one list in between are related to each other. -/
theorem forall₂_trans {γ : Type} {R : α → β → Prop} {S : β → γ → Prop} {T : α → γ → Prop}
    (hTrans : ∀ x y z, R x y → S y z → T x z) {xs : List α} {ys : List β} {zs : List γ}
    (h : List.Forall₂ R xs ys) (h' : List.Forall₂ S ys zs) : List.Forall₂ T xs zs := by
  induction h generalizing zs with
  | nil =>
      cases h'
      exact .nil
  | cons hFirst hRest ih =>
      cases h' with
      | cons hFirst' hRest' => exact .cons (hTrans _ _ _ hFirst hFirst') (ih hRest')

/-- A map that has a value has one for each element, in order. -/
theorem forall₂_of_mapM {f : α → Except ε β} {xs : List α} {ys : List β} (h : xs.mapM f = .ok ys) :
    List.Forall₂ (fun x y => f x = .ok y) xs ys := by
  induction xs generalizing ys with
  | nil =>
      cases h
      exact .nil
  | cons x xs ih =>
      rw [List.mapM_cons] at h
      obtain ⟨y, hFirst, h⟩ := bind_eq_ok_iff.1 h
      obtain ⟨others, hOthers, h⟩ := bind_eq_ok_iff.1 h
      cases h
      exact .cons hFirst (ih hOthers)

theorem length_of_mapM {f : α → Except ε β} {xs : List α} {ys : List β} (h : xs.mapM f = .ok ys) :
    ys.length = xs.length :=
  (forall₂_of_mapM h).length_eq.symm

theorem ne_nil_of_mapM {f : α → Except ε β} {xs : List α} {ys : List β} (hSome : xs ≠ [])
    (h : xs.mapM f = .ok ys) : ys ≠ [] := by
  rintro rfl
  exact hSome (List.length_eq_zero_iff.1 (length_of_mapM h).symm)

/-- Each value of a map is the value of an element. -/
theorem exists_of_mem_mapM {f : α → Except ε β} {xs : List α} {ys : List β}
    (h : xs.mapM f = .ok ys) : ∀ y ∈ ys, ∃ x ∈ xs, f x = .ok y :=
  exists_of_mem_of_forall₂ (forall₂_of_mapM h)

/-- Each element has its value among those of the map. -/
theorem exists_value_of_mapM {f : α → Except ε β} {xs : List α} {ys : List β}
    (h : xs.mapM f = .ok ys) : ∀ x ∈ xs, ∃ y ∈ ys, f x = .ok y :=
  exists_of_mem_of_forall₂ (forall₂_of_mapM h).flip

/-- The values of a map are the values of the elements. -/
theorem mem_of_mapM {f : α → Except ε β} {xs : List α} {ys : List β} (h : xs.mapM f = .ok ys)
    {y : β} : y ∈ ys ↔ ∃ x ∈ xs, f x = .ok y := by
  refine ⟨exists_of_mem_mapM h y, ?_⟩
  rintro ⟨x, hx, hValue⟩
  obtain ⟨y', hy', hValue'⟩ := exists_value_of_mapM h x hx
  cases hValue.symm.trans hValue'
  exact hy'

/-- What is known of each value of a map is known of all, in order. -/
theorem map_of_mapM {γ : Type} {f : α → Except ε β} {left : β → γ} {right : α → γ} {xs : List α}
    {ys : List β} (hEach : ∀ x y, f x = .ok y → left y = right x) (h : xs.mapM f = .ok ys) :
    ys.map left = xs.map right :=
  (map_eq_map_of_forall₂ (forall₂_of_mapM h) fun x y hValue => (hEach x y hValue).symm).symm

/-- The values of a map are those of a function without errors. -/
theorem exists_map_of_mapM [Inhabited β] {f : α → Except ε β} {xs : List α} {ys : List β}
    (h : xs.mapM f = .ok ys) : ∃ g : α → β, ys = xs.map g ∧ ∀ x ∈ xs, f x = .ok (g x) := by
  have hValue : ∀ x y, f x = .ok y → y = (f x).toOption.getD default := by
    intro x y hy
    rw [hy]
    rfl
  refine ⟨_, (List.map_id ys).symm.trans (map_of_mapM hValue h), fun x hx => ?_⟩
  obtain ⟨y, -, hy⟩ := exists_value_of_mapM h x hx
  rw [hy]
  rfl

/-- Two functions that are mapped give the same values if and only if they agree on all elements. -/
theorem mapM_eq_ok_iff_of_eq_ok {f g : α → Except ε β} {xs : List α} {ys : List β}
    (h : xs.mapM f = .ok ys) : xs.mapM g = .ok ys ↔ ∀ x ∈ xs, f x = g x := by
  induction xs generalizing ys with
  | nil =>
      cases h
      exact iff_of_true rfl (by simp)
  | cons x xs ih =>
      rw [List.mapM_cons] at h ⊢
      obtain ⟨y, hFirst, h⟩ := bind_eq_ok_iff.1 h
      obtain ⟨others, hOthers, h⟩ := bind_eq_ok_iff.1 h
      cases h
      rw [List.forall_mem_cons, ← ih hOthers, hFirst]
      constructor
      · intro hg
        obtain ⟨y', hFirst', hg⟩ := bind_eq_ok_iff.1 hg
        obtain ⟨others', hOthers', hg⟩ := bind_eq_ok_iff.1 hg
        cases hg
        exact ⟨hFirst'.symm, hOthers'⟩
      · rintro ⟨hFirst', hOthers'⟩
        rw [← hFirst', hOthers']
        rfl

/-- A map has a value if and only if its function has one on every element. -/
theorem hasValue_mapM_iff {f : α → Except ε β} {xs : List α} :
    HasValue (xs.mapM f) ↔ ∀ x ∈ xs, HasValue (f x) := by
  refine ⟨?_, hasValue_mapM⟩
  rintro ⟨ys, hys, -⟩ x hx
  obtain ⟨y, -, hy⟩ := exists_value_of_mapM hys x hx
  exact ⟨y, hy, trivial⟩

/-- Checks of all elements pass if and only if each one does. -/
theorem hasValue_forM_iff {f : α → Except ε PUnit} {xs : List α} :
    HasValue (xs.forM f) ↔ ∀ x ∈ xs, HasValue (f x) := by
  induction xs with
  | nil => exact iff_of_true (.ok trivial) (by simp)
  | cons x xs ih =>
      rw [List.forall_mem_cons, ← ih]
      show HasValue (f x >>= fun _ => xs.forM f) ↔ _
      constructor
      · rintro ⟨done, hDone, -⟩
        obtain ⟨first, hFirst, hRest⟩ := bind_eq_ok_iff.1 hDone
        exact ⟨⟨first, hFirst, trivial⟩, ⟨done, hRest, trivial⟩⟩
      · rintro ⟨hFirst, hRest⟩
        exact hFirst.bind fun _ _ => hRest

/-- Failing once fails everywhere. -/
theorem exists_error_of_mapM {f : α → Except ε β} {xs : List α} {e : ε} (h : xs.mapM f = .error e) :
    ∃ x ∈ xs, f x = .error e := by
  induction xs with
  | nil => cases h
  | cons x xs ih =>
      rw [List.mapM_cons] at h
      cases hFirst : f x with
      | error cause =>
          rw [hFirst] at h
          cases h
          exact ⟨x, List.mem_cons_self, hFirst⟩
      | ok y =>
          rw [hFirst] at h
          cases hRest : xs.mapM f with
          | error cause =>
              rw [hRest] at h
              cases h
              obtain ⟨z, hz, hError⟩ := ih hRest
              exact ⟨z, List.mem_cons_of_mem x hz, hError⟩
          | ok ys =>
              rw [hRest] at h
              cases h

theorem exists_error_of_forM {f : α → Except ε PUnit} {xs : List α} {e : ε}
    (h : xs.forM f = .error e) : ∃ x ∈ xs, f x = .error e := by
  induction xs with
  | nil => cases h
  | cons x xs ih =>
      rw [List.forM_eq_forM, List.forM_cons] at h
      cases hFirst : f x with
      | error cause =>
          rw [hFirst] at h
          cases h
          exact ⟨x, List.mem_cons_self, hFirst⟩
      | ok y =>
          rw [hFirst] at h
          obtain ⟨z, hz, hError⟩ := ih h
          exact ⟨z, List.mem_cons_of_mem x hz, hError⟩

theorem hasValue_allM {f : α → Except ε Bool} {xs : List α} (h : ∀ x ∈ xs, HasValue (f x)) :
    HasValue (xs.allM f) := by
  induction xs with
  | nil => exact .ok trivial
  | cons x xs ih =>
      obtain ⟨hFirst, hRest⟩ := List.forall_mem_cons.1 h
      rw [List.allM_cons]
      refine hFirst.bind fun holds _ => ?_
      cases holds with
      | true => exact ih hRest
      | false => exact .ok trivial

/-- A check of all elements holds if and only if it holds of each one. -/
theorem allM_eq_ok_true_iff {f : α → Except ε Bool} {xs : List α} :
    xs.allM f = .ok true ↔ ∀ x ∈ xs, f x = .ok true := by
  induction xs with
  | nil => exact iff_of_true rfl (by simp)
  | cons x xs ih =>
      rw [List.allM_cons, List.forall_mem_cons, ← ih, bind_eq_ok_iff]
      constructor
      · rintro ⟨holds, hFirst, hRest⟩
        cases holds with
        | true => exact ⟨hFirst, hRest⟩
        | false => cases hRest
      · rintro ⟨hFirst, hRest⟩
        exact ⟨true, hFirst, hRest⟩

/-- A check that fails of every element fails of them all, unless there are none. -/
theorem allM_eq_ok_false {f : α → Except ε Bool} {xs : List α} (hSome : xs ≠ [])
    (h : ∀ x ∈ xs, f x = .ok false) : xs.allM f = .ok false := by
  cases xs with
  | nil => exact absurd rfl hSome
  | cons x xs =>
      rw [List.allM_cons, h x List.mem_cons_self]
      rfl

/-- A check that succeeds on every element does not see order or repetitions. -/
theorem allM_congr_of_mem_iff {f : α → Except ε Bool} {xs ys : List α}
    (h : ∀ x ∈ xs, HasValue (f x)) (hMem : ∀ x, x ∈ xs ↔ x ∈ ys) : xs.allM f = ys.allM f := by
  obtain ⟨left, hLeft, -⟩ := hasValue_allM h
  obtain ⟨right, hRight, -⟩ := hasValue_allM fun y hy => h y ((hMem y).2 hy)
  have hAlike : xs.allM f = .ok true ↔ ys.allM f = .ok true := by
    simp only [allM_eq_ok_true_iff, hMem]
  rw [hLeft, hRight, Except.ok.injEq, Except.ok.injEq] at hAlike
  rw [hLeft, hRight, Bool.eq_iff_iff.2 hAlike]

/-- Steps that are made one after the other fail at the first one that does. -/
theorem foldlM_eq_error_iff {f : β → α → Except ε β} {xs : List α} {b : β} {e : ε} :
    xs.foldlM f b = .error e ↔
      ∃ front x back b', xs = front ++ x :: back ∧ front.foldlM f b = .ok b' ∧
        f b' x = .error e := by
  constructor
  · intro h
    induction xs generalizing b with
    | nil => cases h
    | cons x xs ih =>
        rw [List.foldlM_cons] at h
        cases hFirst : f b x with
        | error cause =>
            rw [hFirst] at h
            cases h
            exact ⟨[], x, xs, b, rfl, rfl, hFirst⟩
        | ok next =>
            rw [hFirst] at h
            obtain ⟨front, y, back, b', rfl, hFront, hError⟩ := ih h
            refine ⟨x :: front, y, back, b', rfl, ?_, hError⟩
            rw [List.foldlM_cons, hFirst]
            exact hFront
  · rintro ⟨front, x, back, b', rfl, hFront, hError⟩
    rw [List.foldlM_append, hFront]
    show (x :: back).foldlM f b' = _
    rw [List.foldlM_cons, hError]
    rfl

/-! ## Sorting -/

/-- Merging loses and adds no elements. -/
theorem perm_of_mergeM {le : α → α → Except ε Bool} {xs ys zs : List α}
    (h : mergeM le xs ys = .ok zs) : zs.Perm (xs ++ ys) := by
  fun_induction mergeM le xs ys generalizing zs with
  | case1 ys =>
      cases h
      exact .refl _
  | case2 xs =>
      cases h
      rw [List.append_nil]
  | case3 x xs y ys ihLeft ihRight =>
      obtain ⟨before, -, h⟩ := bind_eq_ok_iff.1 h
      cases before with
      | true =>
          obtain ⟨rest, hRest, h⟩ := bind_eq_ok_iff.1 h
          cases h
          exact (ihLeft hRest).cons x
      | false =>
          obtain ⟨rest, hRest, h⟩ := bind_eq_ok_iff.1 h
          cases h
          exact ((ihRight hRest).cons y).trans List.perm_middle.symm

/-- Sorting loses and adds no elements. -/
theorem perm_of_mergeSortM {le : α → α → Except ε Bool} {xs : List α} :
    ∀ ys, mergeSortM le xs = .ok ys → ys.Perm xs := by
  fun_induction mergeSortM le xs with
  | case1 =>
      rintro ys ⟨⟩
      exact .refl []
  | case2 x =>
      rintro ys ⟨⟩
      exact .refl [x]
  | case3 x y rest whole middle ihFront ihBack =>
      intro ys h
      obtain ⟨front, hFront, h⟩ := bind_eq_ok_iff.1 h
      obtain ⟨back, hBack, h⟩ := bind_eq_ok_iff.1 h
      have hBoth := (perm_of_mergeM h).trans ((ihFront front hFront).append (ihBack back hBack))
      rwa [List.take_append_drop] at hBoth

/-- Merging elements that can be compared succeeds. -/
theorem hasValue_mergeM {le : α → α → Except ε Bool} {good : α → Prop}
    (hCompare : ∀ x y, good x → good y → HasValue (le x y)) {xs ys : List α}
    (hx : ∀ x ∈ xs, good x) (hy : ∀ y ∈ ys, good y) : HasValue (mergeM le xs ys) := by
  fun_induction mergeM le xs ys with
  | case1 ys => exact .ok trivial
  | case2 xs => exact .ok trivial
  | case3 x xs y ys ihLeft ihRight =>
      obtain ⟨hFirst, hLeft⟩ := List.forall_mem_cons.1 hx
      obtain ⟨hSecond, hRight⟩ := List.forall_mem_cons.1 hy
      refine (hCompare x y hFirst hSecond).bind fun before _ => ?_
      cases before with
      | true => exact (ihLeft hLeft hy).bind fun _ _ => .ok trivial
      | false => exact (ihRight hx hRight).bind fun _ _ => .ok trivial

theorem hasValue_mergeSortM {le : α → α → Except ε Bool} {good : α → Prop}
    (hCompare : ∀ x y, good x → good y → HasValue (le x y)) {xs : List α}
    (hx : ∀ x ∈ xs, good x) : HasValue (mergeSortM le xs) := by
  fun_induction mergeSortM le xs with
  | case1 => exact .ok trivial
  | case2 x => exact .ok trivial
  | case3 x y rest whole middle ihFront ihBack =>
      have hFrontGood : ∀ z ∈ whole.take middle, good z :=
        fun z hz => hx z (List.mem_of_mem_take hz)
      have hBackGood : ∀ z ∈ whole.drop middle, good z :=
        fun z hz => hx z (List.mem_of_mem_drop hz)
      refine ((ihFront hFrontGood).succeeds perm_of_mergeSortM).bind fun front hFront => ?_
      refine ((ihBack hBackGood).succeeds perm_of_mergeSortM).bind fun back hBack => ?_
      exact hasValue_mergeM hCompare (fun z hz => hFrontGood z (hFront.mem_iff.1 hz))
        fun z hz => hBackGood z (hBack.mem_iff.1 hz)

/-- Sorting elements that can be compared succeeds, and loses and adds none. -/
theorem succeeds_mergeSortM {le : α → α → Except ε Bool} {good : α → Prop}
    (hCompare : ∀ x y, good x → good y → HasValue (le x y)) {xs : List α}
    (hx : ∀ x ∈ xs, good x) : Succeeds (mergeSortM le xs) fun ys => ys.Perm xs :=
  (hasValue_mergeSortM hCompare hx).succeeds perm_of_mergeSortM

end TableFlow
