import TableFlow.Proofs.Binary64.Difference
import TableFlow.Proofs.Cell.Plain
import TableFlow.Sort
import TableFlow.Text.Order

/-!
# The order of rows

Rows are compared by a list of keys, cells by their numbers or by their texts. Exchanging the sides
reverses every verdict, and the first key on which the cells do not compare as equal decides.

Whether the comparison is an order depends on the cells. A number and a text are compared as texts,
two numbers as numbers, and the two orders do not fit together. Nor do whole numbers fit together
with binary64 numbers that cannot hold them. Cells that are all compared in one way (`Alike`) are
ordered, and rows of such cells are.

Two numbers that clash, as an infinity does with itself, are not equal and stand in no order: later
keys are not asked.

## Main results

* `Cell.compare_symm` and `Cell.compare_trans`: the two laws of an order for cells.
* `SortKey.compareRows_lexicographic`: the order of rows.
* `SortKey.exists_disorder`: what it does to infinities, and to numbers among texts.
-/

namespace TableFlow

/-! ## Verdicts -/

namespace Verdict

/-- The verdict of the sign of a whole number. -/
def ofSign (n : Int) : Verdict :=
  if n < 0 then .less else if n = 0 then .equal else .greater

/-- The first side may stand in front of the second one. -/
def IsAtMost (v : Verdict) : Prop := v = .less ∨ v = .equal

instance : DecidablePred IsAtMost :=
  fun v => inferInstanceAs (Decidable (v = .less ∨ v = .equal))

/-- The first verdict, or the second one where the first does not decide. -/
def andThen : Verdict → Verdict → Verdict
  | .equal, w => w
  | v, _ => v

theorem reverse_reverse (v : Verdict) : v.reverse.reverse = v := by
  cases v <;> rfl

theorem reverse_eq_equal_iff (v : Verdict) : v.reverse = .equal ↔ v = .equal := by
  cases v <;> decide

theorem ofOrdering_swap (o : Ordering) : ofOrdering o.swap = (ofOrdering o).reverse := by
  cases o <;> rfl

theorem ofOrdering_then (o o' : Ordering) :
    ofOrdering (o.then o') = (ofOrdering o).andThen (ofOrdering o') := by
  cases o <;> rfl

theorem isLE_of_isAtMost {o : Ordering} (h : (ofOrdering o).IsAtMost) : o.isLE := by
  cases o with
  | lt => rfl
  | eq => rfl
  | gt => exact absurd h (by decide)

theorem IsAtMost.andThen {v w : Verdict} (hv : v.IsAtMost) (hw : w.IsAtMost) :
    (v.andThen w).IsAtMost := by
  rcases hv with rfl | rfl
  · exact .inl rfl
  · exact hw

theorem andThen_comm {v w : Verdict} (hv : v.IsAtMost) (hw : w.IsAtMost) :
    v.andThen w = w.andThen v := by
  rcases hv with rfl | rfl <;> rcases hw with rfl | rfl <;> rfl

theorem ofSign_sub (m n : Int) : ofSign (m - n) = ofOrdering (compare m n) := by
  unfold ofSign
  rw [Int.compare_eq_ite_lt]
  by_cases hLess : m < n
  · rw [if_pos hLess, if_pos (by omega)]
    rfl
  · rw [if_neg hLess, if_neg (by omega)]
    by_cases hGreater : n < m
    · rw [if_pos hGreater, if_neg (by omega)]
      rfl
    · rw [if_neg hGreater, if_pos (by omega)]
      rfl

theorem ofSign_congr {m n : Int} (h : Binary64.SameSign m n) : ofSign m = ofSign n := by
  simp only [ofSign, h.negative, h.zero]

end Verdict

/-- An order composes: what is in front of what is in front. -/
theorem compare_eq_then {α : Type} {cmp : α → α → Ordering} [Std.TransCmp cmp] {a b c : α}
    (hab : (cmp a b).isLE) (hbc : (cmp b c).isLE) : cmp a c = (cmp a b).then (cmp b c) := by
  cases h : cmp a b with
  | lt => exact Std.TransCmp.lt_of_lt_of_isLE h hbc
  | eq => exact Std.TransCmp.congr_left h
  | gt => rw [h] at hab; cases hab

/-! ## Three ways to compare -/

/-- The verdict on two binary64 numbers: by their ranks, and none if they clash. -/
def Binary64.verdict (x y : Binary64) : Verdict := (Difference.binary64 (x - y)).verdict

namespace Binary64

theorem verdict_of_clash {x y : Binary64} (h : Clash x y) : verdict x y = .undecided := by
  simp only [verdict, Difference.verdict, rank_sub_of_clash h]

theorem exists_verdict {x y : Binary64} (h : ¬ Clash x y) :
    ∃ m n, x.rank = some m ∧ y.rank = some n ∧ verdict x y = .ofOrdering (compare m n) := by
  obtain ⟨m, n, d, hx, hy, hRank, hSign⟩ := exists_rank_sub h
  refine ⟨m, n, hx, hy, ?_⟩
  have hVerdict : verdict x y = .ofSign d := by
    simp only [verdict, Difference.verdict, hRank]
    rfl
  rw [hVerdict, Verdict.ofSign_congr hSign, Verdict.ofSign_sub]

theorem verdict_eq_undecided_iff (x y : Binary64) : verdict x y = .undecided ↔ Clash x y := by
  constructor
  · intro hNone
    by_cases hClash : Clash x y
    · exact hClash
    · obtain ⟨m, n, -, -, hVerdict⟩ := exists_verdict hClash
      rw [hVerdict] at hNone
      cases hOrder : compare m n <;> rw [hOrder] at hNone <;> cases hNone
  · exact verdict_of_clash

theorem verdict_symm (x y : Binary64) : verdict y x = (verdict x y).reverse := by
  by_cases hClash : Clash x y
  · rw [verdict_of_clash hClash, verdict_of_clash hClash.symm]
    rfl
  · have hClash' : ¬ Clash y x := fun hSwapped => hClash hSwapped.symm
    obtain ⟨m, n, hx, hy, hVerdict⟩ := exists_verdict hClash
    obtain ⟨n', m', hy', hx', hVerdict'⟩ := exists_verdict hClash'
    rw [hx] at hx'
    rw [hy] at hy'
    cases hx'
    cases hy'
    rw [hVerdict, hVerdict', ← Verdict.ofOrdering_swap, ← Std.OrientedOrd.eq_swap]

theorem verdict_trans {x y z : Binary64} (hxy : (verdict x y).IsAtMost)
    (hyz : (verdict y z).IsAtMost) : verdict x z = (verdict x y).andThen (verdict y z) := by
  have hDecided : ∀ {x y : Binary64}, (verdict x y).IsAtMost → ¬ Clash x y := by
    intro x y hAtMost hClash
    rw [verdict_of_clash hClash] at hAtMost
    exact absurd hAtMost (by decide)
  obtain ⟨l, m, hx, hy, hFirst⟩ := exists_verdict (hDecided hxy)
  obtain ⟨m', n, hy', hz, hSecond⟩ := exists_verdict (hDecided hyz)
  rw [hy] at hy'
  cases hy'
  have hLess : (compare l m).isLE := Verdict.isLE_of_isAtMost (hFirst ▸ hxy)
  have hLess' : (compare m n).isLE := Verdict.isLE_of_isAtMost (hSecond ▸ hyz)
  have hApart : ¬ Clash x z := by
    intro hClash
    rcases hClash with rfl | rfl | ⟨negative, rfl, rfl⟩
    · cases hx
    · cases hz
    · rw [hx] at hz
      cases hz
      have hSame : m = l :=
        Int.le_antisymm (Int.isLE_compare.1 hLess') (Int.isLE_compare.1 hLess)
      have hMiddle : y = .infinite negative :=
        eq_infinite_of_rank (by rw [hx, hy, hSame])
      exact hDecided hxy (.inr (.inr ⟨negative, rfl, hMiddle⟩))
  obtain ⟨l', n', hx', hz', hBoth⟩ := exists_verdict hApart
  rw [hx] at hx'
  rw [hz] at hz'
  cases hx'
  cases hz'
  rw [hFirst, hSecond, hBoth, compare_eq_then hLess hLess', Verdict.ofOrdering_then]

/-- Whole numbers that are held exactly are in the order of the whole numbers. -/
theorem verdict_of_toInt? {x y : Binary64} {m n : Int} (hx : x.toInt? = some m)
    (hy : y.toInt? = some n) : verdict x y = .ofOrdering (compare m n) := by
  have hRank := rank_of_toInt? hx
  have hRank' := rank_of_toInt? hy
  have hApart : ¬ Clash x y := by
    rintro (rfl | rfl | ⟨negative, rfl, rfl⟩)
    · cases hx
    · cases hy
    · cases hx
  obtain ⟨m', n', hm, hn, hVerdict⟩ := exists_verdict hApart
  rw [hRank] at hm
  rw [hRank'] at hn
  cases hm
  cases hn
  have hUnit : (0 : Int) < unitsPerOne := Int.natCast_pos.2 unitsPerOne_pos
  have hScaled : compare (m * unitsPerOne) (n * unitsPerOne) = compare m n := by
    rw [Int.compare_eq_ite_lt, Int.compare_eq_ite_lt]
    simp only [Int.mul_lt_mul_right hUnit]
  rw [hVerdict, hScaled]

end Binary64

/-- The order of texts without regard to case. -/
def foldOrder (s t : List Char) : Ordering := Text.compareCodePoints (Text.fold s) (Text.fold t)

instance : Std.TransCmp foldOrder where
  eq_swap := by
    unfold foldOrder
    exact Std.OrientedCmp.eq_swap
  isLE_trans := by
    unfold foldOrder
    exact Std.TransCmp.isLE_trans

/-- The order of texts: without regard to case, and then with it. -/
def textOrder (s t : String) : Ordering :=
  compareLex foldOrder Text.compareCodePoints s.toList t.toList

instance : Std.TransCmp textOrder where
  eq_swap := by
    unfold textOrder
    exact Std.OrientedCmp.eq_swap
  isLE_trans := by
    unfold textOrder
    exact Std.TransCmp.isLE_trans

/-- Texts are in order if they hold no NUL character. -/
theorem compareTexts_eq_ok_iff {s t : String} {o : Ordering} :
    compareTexts s t = .ok o ↔ '\x00' ∉ s.toList ∧ '\x00' ∉ t.toList ∧ o = textOrder s t := by
  unfold compareTexts
  by_cases hNul : '\x00' ∈ s.toList ∨ '\x00' ∈ t.toList
  · rw [if_pos hNul]
    constructor
    · intro h
      cases h
    · rintro ⟨hs, ht, -⟩
      exact absurd hNul (not_or.2 ⟨hs, ht⟩)
  · rw [if_neg hNul]
    obtain ⟨hs, ht⟩ := not_or.1 hNul
    constructor
    · intro h
      exact ⟨hs, ht, (Except.ok.inj h).symm⟩
    · rintro ⟨-, -, rfl⟩
      rfl

namespace Cell

/-- A comparison of cells that has a verdict: of two whole numbers, of two numbers that are not both
whole, or of two texts. -/
inductive Compared : Cell → Cell → Verdict → Prop
  | whole (m n : Int) : Compared (.int m) (.int n) (.ofOrdering (Ord.compare m n))
  | numbers {a b : Cell} {x y : Binary64} (ha : a.isNumber) (hb : b.isNumber)
      (hMixed : ∀ m n, ¬ (a = .int m ∧ b = .int n)) (hx : a.toNumber = .ok x)
      (hy : b.toNumber = .ok y) : Compared a b (x.verdict y)
  | texts {a b : Cell} {s t : String} (hNumbers : ¬ (a.isNumber ∧ b.isNumber))
      (hs : a.toText = .ok s) (ht : b.toText = .ok t) (hsNul : '\x00' ∉ s.toList)
      (htNul : '\x00' ∉ t.toList) : Compared a b (.ofOrdering (textOrder s t))

theorem compare_int (m n : Int) :
    (Cell.int m).compare (.int n) = .ok (.ofOrdering (Ord.compare m n)) := by
  show Except.ok (Verdict.ofSign (m - n)) = _
  rw [Verdict.ofSign_sub]

theorem compare_of_numbers {a b : Cell} (ha : a.isNumber) (hb : b.isNumber)
    (hMixed : ∀ m n, ¬ (a = .int m ∧ b = .int n)) :
    a.compare b = (do
      let x ← a.toNumber
      let y ← b.toNumber
      .ok (x.verdict y)) := by
  unfold compare difference
  split
  · next m n => exact absurd ⟨rfl, rfl⟩ (hMixed m n)
  · rw [if_pos (by rw [ha, hb]; rfl)]
    cases a.toNumber with
    | error cause => rfl
    | ok x =>
        cases b.toNumber with
        | error cause => rfl
        | ok y => rfl

theorem compare_of_texts {a b : Cell} (h : ¬ (a.isNumber ∧ b.isNumber)) :
    a.compare b = (do
      let s ← a.toText
      let t ← b.toText
      let o ← compareTexts s t
      .ok (.ofOrdering o)) := by
  unfold compare difference
  split
  · exact absurd ⟨rfl, rfl⟩ h
  · rw [if_neg (by rwa [Bool.and_eq_true])]
    cases a.toText with
    | error cause => rfl
    | ok s =>
        cases b.toText with
        | error cause => rfl
        | ok t =>
            show (compareTexts s t >>= fun o => Except.ok (Difference.order o)) >>= _ =
              compareTexts s t >>= _
            cases compareTexts s t with
            | error cause => rfl
            | ok o => rfl

/-- A comparison has a verdict in these three ways only. -/
theorem compare_eq_ok_iff {a b : Cell} {v : Verdict} : a.compare b = .ok v ↔ Compared a b v := by
  constructor
  · intro h
    by_cases hWhole : ∃ m n, a = .int m ∧ b = .int n
    · obtain ⟨m, n, rfl, rfl⟩ := hWhole
      rw [compare_int] at h
      cases h
      exact .whole m n
    · by_cases hNumbers : a.isNumber ∧ b.isNumber
      · have hMixed : ∀ m n, ¬ (a = .int m ∧ b = .int n) :=
          fun m n hBoth => hWhole ⟨m, n, hBoth⟩
        rw [compare_of_numbers hNumbers.1 hNumbers.2 hMixed] at h
        obtain ⟨x, hx, h⟩ := bind_eq_ok_iff.1 h
        obtain ⟨y, hy, h⟩ := bind_eq_ok_iff.1 h
        cases h
        exact .numbers hNumbers.1 hNumbers.2 hMixed hx hy
      · rw [compare_of_texts hNumbers] at h
        obtain ⟨s, hs, h⟩ := bind_eq_ok_iff.1 h
        obtain ⟨t, ht, h⟩ := bind_eq_ok_iff.1 h
        obtain ⟨o, ho, h⟩ := bind_eq_ok_iff.1 h
        obtain ⟨hsNul, htNul, rfl⟩ := compareTexts_eq_ok_iff.1 ho
        cases h
        exact .texts hNumbers hs ht hsNul htNul
  · intro h
    cases h with
    | whole m n => exact compare_int m n
    | numbers ha hb hMixed hx hy =>
        rw [compare_of_numbers ha hb hMixed, hx, hy]
        rfl
    | texts hNumbers hs ht hsNul htNul =>
        have hOrder := compareTexts_eq_ok_iff.2 ⟨hsNul, htNul, rfl⟩
        rw [compare_of_texts hNumbers, hs, ht]
        show compareTexts _ _ >>= _ = _
        rw [hOrder]
        rfl

/-! ## The laws for cells -/

/-- Exchanging the sides reverses the verdict. -/
theorem compare_symm {a b : Cell} {v : Verdict} (h : a.compare b = .ok v) :
    b.compare a = .ok v.reverse := by
  rw [compare_eq_ok_iff] at h ⊢
  cases h with
  | whole m n =>
      rw [← Verdict.ofOrdering_swap, ← Std.OrientedOrd.eq_swap]
      exact .whole n m
  | numbers ha hb hMixed hx hy =>
      rw [← Binary64.verdict_symm]
      exact .numbers hb ha (fun n m hBoth => hMixed m n hBoth.symm) hy hx
  | texts hNumbers hs ht hsNul htNul =>
      rw [← Verdict.ofOrdering_swap, ← Std.OrientedCmp.eq_swap]
      exact .texts (fun hBoth => hNumbers hBoth.symm) ht hs htNul hsNul

/-- A number is held exactly: by a binary64 cell, or by a whole number that loses nothing. -/
def Holds (cell : Cell) (x : Binary64) : Prop :=
  cell = .float x ∨ ∃ n, cell = .int n ∧ Binary64.ofInt? n = some x ∧ x.toInt? = some n

/-- Three cells that are compared in one way: as whole numbers, as binary64 numbers that they hold
exactly, or as texts. -/
inductive Alike (a b c : Cell) : Prop
  | whole {l m n : Int} (ha : a = .int l) (hb : b = .int m) (hc : c = .int n)
  | numbers {x y z : Binary64} (ha : a.Holds x) (hb : b.Holds y) (hc : c.Holds z)
  | texts (hab : ¬ (a.isNumber ∧ b.isNumber)) (hbc : ¬ (b.isNumber ∧ c.isNumber))
      (hac : ¬ (a.isNumber ∧ c.isNumber))

theorem Alike.symm {a b c : Cell} (h : Alike a b c) : Alike c b a := by
  cases h with
  | whole ha hb hc => exact .whole hc hb ha
  | numbers ha hb hc => exact .numbers hc hb ha
  | texts hab hbc hac =>
      exact .texts (fun h => hbc h.symm) (fun h => hab h.symm) (fun h => hac h.symm)

theorem Holds.isNumber {cell : Cell} {x : Binary64} (h : cell.Holds x) : cell.isNumber := by
  rcases h with rfl | ⟨n, rfl, -⟩ <;> rfl

theorem Holds.toNumber {cell : Cell} {x : Binary64} (h : cell.Holds x) : cell.toNumber = .ok x := by
  rcases h with rfl | ⟨n, rfl, hReached, -⟩
  · rfl
  · rw [toNumber_int, hReached]
    rfl

/-- Cells that hold numbers exactly are compared as these numbers, also if both are whole. -/
theorem compare_of_holds {a b : Cell} {x y : Binary64} (ha : a.Holds x) (hb : b.Holds y) :
    a.compare b = .ok (x.verdict y) := by
  by_cases hWhole : ∃ m n, a = .int m ∧ b = .int n
  · obtain ⟨m, n, rfl, rfl⟩ := hWhole
    rcases ha with hFloat | ⟨m', hm, -, hx⟩
    · cases hFloat
    rcases hb with hFloat | ⟨n', hn, -, hy⟩
    · cases hFloat
    cases hm
    cases hn
    rw [compare_int, Binary64.verdict_of_toInt? hx hy]
  · rw [compare_of_numbers ha.isNumber hb.isNumber fun m n hBoth => hWhole ⟨m, n, hBoth⟩,
      ha.toNumber, hb.toNumber]
    rfl

/-- Cells that are compared in one way are ordered. -/
theorem compare_trans {a b c : Cell} {v w : Verdict} (h : Alike a b c) (hab : a.compare b = .ok v)
    (hv : v.IsAtMost) (hbc : b.compare c = .ok w) (hw : w.IsAtMost) :
    a.compare c = .ok (v.andThen w) := by
  cases h with
  | whole ha hb hc =>
      subst ha hb hc
      rw [compare_int] at hab hbc ⊢
      cases hab
      cases hbc
      rw [compare_eq_then (Verdict.isLE_of_isAtMost hv) (Verdict.isLE_of_isAtMost hw),
        Verdict.ofOrdering_then]
  | numbers ha hb hc =>
      rw [compare_of_holds ha hb] at hab
      rw [compare_of_holds hb hc] at hbc
      cases hab
      cases hbc
      rw [compare_of_holds ha hc, Binary64.verdict_trans hv hw]
  | texts hNoneAB hNoneBC hNoneAC =>
      rw [compare_eq_ok_iff] at hab hbc ⊢
      cases hab with
      | whole m n => exact absurd ⟨rfl, rfl⟩ hNoneAB
      | numbers hNumberA hNumberB => exact absurd ⟨hNumberA, hNumberB⟩ hNoneAB
      | texts _ hs ht hsNul htNul =>
          cases hbc with
          | whole m n => exact absurd ⟨rfl, rfl⟩ hNoneBC
          | numbers hNumberB hNumberC => exact absurd ⟨hNumberB, hNumberC⟩ hNoneBC
          | texts _ ht' hu _ huNul =>
              rw [ht] at ht'
              cases ht'
              rw [← Verdict.ofOrdering_then, ← compare_eq_then (Verdict.isLE_of_isAtMost hv)
                (Verdict.isLE_of_isAtMost hw)]
              exact .texts hNoneAC hs hu hsNul huNul

/-- Whole numbers give finite numbers only. -/
theorem eq_float_of_toNumber {cell : Cell} {x : Binary64} (hNumber : cell.isNumber)
    (hx : cell.toNumber = .ok x) (hFinite : x.isFinite = false) : cell = .float x := by
  cases cell with
  | int n =>
      rw [toNumber_int] at hx
      unfold Binary64.ofInt? at hx
      by_cases hReached : (Binary64.nearestInt n).isFinite
      · rw [if_pos hReached, Option.elim_some, Except.ok.injEq] at hx
        rw [← hx, hReached] at hFinite
        cases hFinite
      · rw [if_neg hReached] at hx
        cases hx
  | float y =>
      cases hx
      rfl
  | _ => cases hNumber

/-- Numbers other than NaN are in no order in one case only: both are the same infinity. -/
theorem compare_eq_undecided_iff {a b : Cell} (ha : a.isNaN = false) (hb : b.isNaN = false) :
    a.compare b = .ok .undecided ↔
      ∃ negative, a = .float (.infinite negative) ∧ b = .float (.infinite negative) := by
  constructor
  · intro h
    rw [compare_eq_ok_iff] at h
    generalize hVerdict : Verdict.undecided = v at h
    cases h with
    | whole m n => cases hOrder : Ord.compare m n <;> rw [hOrder] at hVerdict <;> cases hVerdict
    | texts => cases hOrder : textOrder _ _ <;> rw [hOrder] at hVerdict <;> cases hVerdict
    | numbers hNumberA hNumberB _ hx hy =>
        rcases (Binary64.verdict_eq_undecided_iff _ _).1 hVerdict.symm with
          rfl | rfl | ⟨negative, rfl, rfl⟩
        · rw [eq_float_of_toNumber hNumberA hx rfl] at ha
          cases ha
        · rw [eq_float_of_toNumber hNumberB hy rfl] at hb
          cases hb
        · exact ⟨negative, eq_float_of_toNumber hNumberA hx rfl,
            eq_float_of_toNumber hNumberB hy rfl⟩
  · rintro ⟨negative, rfl, rfl⟩
    have hClash : Binary64.Clash (.infinite negative) (.infinite negative) :=
      .inr (.inr ⟨negative, rfl, rfl⟩)
    rw [compare_of_holds (.inl rfl) (.inl rfl), Binary64.verdict_of_clash hClash]

end Cell

/-! ## The order of rows -/

/-- A verdict in the direction of a key. -/
def Direction.directed : Direction → Verdict → Verdict
  | .ascending, v => v
  | .descending, v => v.reverse

theorem Direction.directed_reverse (d : Direction) (v : Verdict) :
    d.directed v.reverse = (d.directed v).reverse := by
  cases d <;> rfl

namespace SortKey

theorem compare_eq (key : SortKey) (left right : Row) :
    key.compare left right =
      (left.get key.column).compare (right.get key.column) >>= fun v =>
        .ok (key.direction.directed v) := by
  obtain ⟨column, direction⟩ := key
  cases direction <;> rfl

theorem compare_eq_ok_iff {key : SortKey} {left right : Row} {v : Verdict} :
    key.compare left right = .ok v ↔
      ∃ w, (left.get key.column).compare (right.get key.column) = .ok w ∧
        v = key.direction.directed w := by
  rw [compare_eq, bind_eq_ok_iff]
  simp only [Except.ok.injEq, eq_comm]

theorem compare_symm {key : SortKey} {a b : Row} {v : Verdict} (h : key.compare a b = .ok v) :
    key.compare b a = .ok v.reverse := by
  obtain ⟨w, hCells, rfl⟩ := compare_eq_ok_iff.1 h
  exact compare_eq_ok_iff.2 ⟨w.reverse, Cell.compare_symm hCells,
    (Direction.directed_reverse _ _).symm⟩

/-- The cells of three rows under a key are compared in one way. -/
def Alike (key : SortKey) (a b c : Row) : Prop :=
  Cell.Alike (a.get key.column) (b.get key.column) (c.get key.column)

theorem compare_trans {key : SortKey} {a b c : Row} {v w : Verdict} (h : key.Alike a b c)
    (hab : key.compare a b = .ok v) (hv : v.IsAtMost) (hbc : key.compare b c = .ok w)
    (hw : w.IsAtMost) : key.compare a c = .ok (v.andThen w) := by
  obtain ⟨v', hv', hDirected⟩ := compare_eq_ok_iff.1 hab
  obtain ⟨w', hw', hDirected'⟩ := compare_eq_ok_iff.1 hbc
  rw [compare_eq_ok_iff]
  cases hDirection : key.direction with
  | ascending =>
      rw [hDirection] at hDirected hDirected'
      subst hDirected hDirected'
      exact ⟨_, Cell.compare_trans h hv' hv hw' hw, rfl⟩
  | descending =>
      rw [hDirection] at hDirected hDirected'
      subst hDirected hDirected'
      have hEnds := Cell.compare_trans (Cell.Alike.symm h) (Cell.compare_symm hw') hw
        (Cell.compare_symm hv') hv
      refine ⟨_, Cell.compare_symm hEnds, ?_⟩
      show _ = Verdict.reverse (Verdict.reverse _)
      rw [Verdict.reverse_reverse]
      exact Verdict.andThen_comm hv hw

theorem compareRows_cons_eq_ok_iff {key : SortKey} {keys : List SortKey} {left right : Row}
    {v : Verdict} :
    compareRows (key :: keys) left right = .ok v ↔
      ∃ w, key.compare left right = .ok w ∧
        (if w = .equal then compareRows keys left right = .ok v else v = w) := by
  rw [compareRows, bind_eq_ok_iff]
  constructor
  · rintro ⟨w, hKey, h⟩
    refine ⟨w, hKey, ?_⟩
    by_cases hEqual : w = .equal
    · rwa [if_pos hEqual] at h ⊢
    · rw [if_neg hEqual] at h ⊢
      exact (Except.ok.inj h).symm
  · rintro ⟨w, hKey, h⟩
    refine ⟨w, hKey, ?_⟩
    by_cases hEqual : w = .equal
    · rwa [if_pos hEqual] at h ⊢
    · rw [if_neg hEqual] at h ⊢
      rw [h]

/-- Exchanging the rows reverses the verdict. -/
theorem compareRows_symm {keys : List SortKey} {a b : Row} {v : Verdict}
    (h : compareRows keys a b = .ok v) : compareRows keys b a = .ok v.reverse := by
  induction keys with
  | nil =>
      cases h
      rfl
  | cons key keys ih =>
      obtain ⟨w, hKey, h⟩ := compareRows_cons_eq_ok_iff.1 h
      refine compareRows_cons_eq_ok_iff.2 ⟨w.reverse, compare_symm hKey, ?_⟩
      simp only [Verdict.reverse_eq_equal_iff]
      by_cases hEqual : w = .equal
      · rw [if_pos hEqual] at h ⊢
        exact ih h
      · rw [if_neg hEqual] at h ⊢
        rw [h]

private theorem isAtMost_of_cons {v w : Verdict} {keys : List SortKey} {left right : Row}
    (h : if w = .equal then compareRows keys left right = .ok v else v = w) (hv : v.IsAtMost) :
    w.IsAtMost := by
  by_cases hEqual : w = .equal
  · exact .inr hEqual
  · rw [if_neg hEqual] at h
    exact h ▸ hv

/-- Rows whose cells are compared in one way are ordered. -/
theorem compareRows_trans {keys : List SortKey} {a b c : Row} {v w : Verdict}
    (hAlike : ∀ key ∈ keys, key.Alike a b c) (hab : compareRows keys a b = .ok v) (hv : v.IsAtMost)
    (hbc : compareRows keys b c = .ok w) (hw : w.IsAtMost) :
    compareRows keys a c = .ok (v.andThen w) := by
  induction keys generalizing v w with
  | nil =>
      cases hab
      cases hbc
      rfl
  | cons key keys ih =>
      obtain ⟨hFirst, hRest⟩ := List.forall_mem_cons.1 hAlike
      obtain ⟨v', hKeyAB, hab⟩ := compareRows_cons_eq_ok_iff.1 hab
      obtain ⟨w', hKeyBC, hbc⟩ := compareRows_cons_eq_ok_iff.1 hbc
      rw [compareRows_cons_eq_ok_iff]
      have hv' : v'.IsAtMost := isAtMost_of_cons hab hv
      have hw' : w'.IsAtMost := isAtMost_of_cons hbc hw
      refine ⟨_, compare_trans hFirst hKeyAB hv' hKeyBC hw', ?_⟩
      rcases hv' with rfl | rfl
      · have hFirstLess : v = .less := hab
        rw [hFirstLess]
        rfl
      · rcases hw' with rfl | rfl
        · have hSecondLess : w = .less := hbc
          rw [hSecondLess]
          rcases hv with rfl | rfl <;> rfl
        · exact ih hRest hab hv hbc hw

/-! ## Which key decides -/

/-- The cells of two rows under a key compare as equal. -/
def Ties (key : SortKey) (left right : Row) : Prop :=
  (left.get key.column).compare (right.get key.column) = .ok .equal

/-- The first key on which the cells of two rows do not compare as equal gives the verdict, in its
direction; if there is none, the rows compare as equal. -/
inductive Decides : List SortKey → Row → Row → Verdict → Prop
  | none {keys : List SortKey} {left right : Row} (hTies : ∀ key ∈ keys, key.Ties left right) :
      Decides keys left right .equal
  | first {front back : List SortKey} {key : SortKey} {left right : Row} {v : Verdict}
      (hTies : ∀ earlier ∈ front, earlier.Ties left right)
      (hCells : (left.get key.column).compare (right.get key.column) = .ok v)
      (hApart : v ≠ .equal) : Decides (front ++ key :: back) left right (key.direction.directed v)

theorem Decides.cons {key : SortKey} {keys : List SortKey} {left right : Row} {v : Verdict}
    (hTies : key.Ties left right) (h : Decides keys left right v) :
    Decides (key :: keys) left right v := by
  cases h with
  | none hRest => exact .none (List.forall_mem_cons.2 ⟨hTies, hRest⟩)
  | @first front back later _ _ w hRest hCells hApart =>
      exact @first (key :: front) back later left right w
        (List.forall_mem_cons.2 ⟨hTies, hRest⟩) hCells hApart

theorem directed_eq_equal_iff (d : Direction) (v : Verdict) :
    d.directed v = .equal ↔ v = .equal := by
  cases d with
  | ascending => exact Iff.rfl
  | descending => exact v.reverse_eq_equal_iff

theorem compare_eq_equal_iff {key : SortKey} {left right : Row} :
    key.compare left right = .ok .equal ↔ key.Ties left right := by
  rw [compare_eq_ok_iff]
  constructor
  · rintro ⟨w, hCells, hEqual⟩
    rw [(directed_eq_equal_iff _ _).1 hEqual.symm] at hCells
    exact hCells
  · intro hTies
    exact ⟨.equal, hTies, ((directed_eq_equal_iff _ _).2 rfl).symm⟩

/-- The verdict on two rows is the one of the key that decides. -/
theorem compareRows_eq_ok_iff {keys : List SortKey} {left right : Row} {v : Verdict} :
    compareRows keys left right = .ok v ↔ Decides keys left right v := by
  constructor
  · intro h
    induction keys with
    | nil =>
        cases h
        exact .none (by simp)
    | cons key keys ih =>
        obtain ⟨w, hKey, h⟩ := compareRows_cons_eq_ok_iff.1 h
        by_cases hEqual : w = .equal
        · rw [if_pos hEqual] at h
          rw [hEqual] at hKey
          exact .cons (compare_eq_equal_iff.1 hKey) (ih h)
        · rw [if_neg hEqual] at h
          obtain ⟨w', hCells, rfl⟩ := compare_eq_ok_iff.1 hKey
          rw [directed_eq_equal_iff] at hEqual
          rw [h]
          exact @Decides.first [] _ _ _ _ _ (by simp) hCells hEqual
  · intro h
    cases h with
    | none hTies =>
        induction keys with
        | nil => rfl
        | cons key keys ih =>
            obtain ⟨hFirst, hRest⟩ := List.forall_mem_cons.1 hTies
            exact compareRows_cons_eq_ok_iff.2 ⟨_, compare_eq_equal_iff.2 hFirst, ih hRest⟩
    | @first front back key _ _ w hTies hCells hApart =>
        induction front with
        | nil =>
            refine compareRows_cons_eq_ok_iff.2 ⟨_, compare_eq_ok_iff.2 ⟨w, hCells, rfl⟩, ?_⟩
            rw [if_neg (mt (directed_eq_equal_iff _ _).1 hApart)]
        | cons earlier front ih =>
            obtain ⟨hFirst, hRest⟩ := List.forall_mem_cons.1 hTies
            exact compareRows_cons_eq_ok_iff.2 ⟨_, compare_eq_equal_iff.2 hFirst, ih hRest⟩

/-- **Rows are ordered by their keys.** Exchanging two rows reverses the verdict on them. Rows whose
cells are compared in one way under each key are ordered. The first key on which the cells do not
compare as equal gives the verdict, and numbers other than NaN are in no order, neither equal nor
apart, in one case only: both are the same infinity. -/
theorem compareRows_lexicographic (keys : List SortKey) :
    (∀ a b v, compareRows keys a b = .ok v → compareRows keys b a = .ok v.reverse) ∧
      (∀ a b c v w, (∀ key ∈ keys, key.Alike a b c) → compareRows keys a b = .ok v →
        v.IsAtMost → compareRows keys b c = .ok w → w.IsAtMost →
          ∃ u, compareRows keys a c = .ok u ∧ u.IsAtMost) ∧
      (∀ a b v, compareRows keys a b = .ok v ↔ Decides keys a b v) ∧
      ∀ a b : Cell, a.isNaN = false → b.isNaN = false →
        (a.compare b = .ok .undecided ↔
          ∃ negative, a = .float (.infinite negative) ∧ b = .float (.infinite negative)) := by
  refine ⟨fun a b v h => compareRows_symm h, ?_, fun a b v => compareRows_eq_ok_iff,
    fun a b ha hb => Cell.compare_eq_undecided_iff ha hb⟩
  intro a b c v w hAlike hab hv hbc hw
  exact ⟨_, compareRows_trans hAlike hab hv hbc hw, hv.andThen hw⟩

/-- A row of two columns. -/
def twoCells (v k : Cell) : Row := (Row.empty.set "v" v).set "k" k

/-- Descending by one column, and ascending by another one. -/
def mixedKeys : List SortKey := [⟨"v", .descending⟩, ⟨"k", .ascending⟩]

/-- Three, as a binary64 number. -/
def three : Binary64 := Binary64.nearestInt 3

/-- Whole numbers beside binary64 numbers, and a number beside texts, can be compared in one way. -/
theorem compareRows_lexicographic_mixed :
    compareRows mixedKeys (twoCells (.int 3) (.text "A")) (twoCells (.float three) (.text "a")) =
        .ok .less ∧
      compareRows mixedKeys (twoCells (.float three) (.text "a")) (twoCells (.int 2) (.int 5)) =
        .ok .less ∧
      (∃ u, compareRows mixedKeys (twoCells (.int 3) (.text "A")) (twoCells (.int 2) (.int 5)) =
        .ok u ∧ u.IsAtMost) ∧
      (Cell.float (.infinite true)).compare (.float (.infinite true)) = .ok .undecided := by
  have hHeld : Cell.Holds (.int 3) three :=
    .inr ⟨3, rfl, by decide +kernel, by decide +kernel⟩
  have hHeld' : Cell.Holds (.int 2) (Binary64.nearestInt 2) :=
    .inr ⟨2, rfl, by decide +kernel, by decide +kernel⟩
  have hAlike : ∀ key ∈ mixedKeys, key.Alike (twoCells (.int 3) (.text "A"))
      (twoCells (.float three) (.text "a")) (twoCells (.int 2) (.int 5)) := by
    refine List.forall_mem_cons.2 ⟨?_, List.forall_mem_singleton.2 ?_⟩
    · exact .numbers hHeld (.inl rfl) hHeld'
    · exact .texts (by decide) (by decide) (by decide)
  have hFirst : compareRows mixedKeys (twoCells (.int 3) (.text "A"))
      (twoCells (.float three) (.text "a")) = .ok .less := by decide +kernel
  have hSecond : compareRows mixedKeys (twoCells (.float three) (.text "a"))
      (twoCells (.int 2) (.int 5)) = .ok .less := by decide +kernel
  obtain ⟨-, hTrans, -, hUndecided⟩ := compareRows_lexicographic mixedKeys
  exact ⟨hFirst, hSecond, hTrans _ _ _ _ _ hAlike hFirst (.inl rfl) hSecond (.inl rfl),
    (hUndecided _ _ rfl rfl).2 ⟨true, rfl, rfl⟩⟩

/-- In a column of numbers and texts the comparison is no order: `2` is in front of `10`, and `10`
in front of the text `1z`, but `2` is behind that text. And an infinity keeps the next key from
being asked, on which the rows differ. -/
theorem exists_disorder :
    compareRows [⟨"v", .ascending⟩] (twoCells (.int 2) .missing) (twoCells (.int 10) .missing) =
        .ok .less ∧
      compareRows [⟨"v", .ascending⟩] (twoCells (.int 10) .missing)
        (twoCells (.text "1z") .missing) = .ok .less ∧
      compareRows [⟨"v", .ascending⟩] (twoCells (.int 2) .missing)
        (twoCells (.text "1z") .missing) = .ok .greater ∧
      compareRows [⟨"v", .ascending⟩, ⟨"k", .ascending⟩]
        (twoCells (.float (.infinite false)) (.int 1))
        (twoCells (.float (.infinite false)) (.int 2)) = .ok .undecided ∧
      compareRows [⟨"k", .ascending⟩] (twoCells (.float (.infinite false)) (.int 1))
        (twoCells (.float (.infinite false)) (.int 2)) = .ok .less := by
  decide +kernel

end SortKey

end TableFlow
