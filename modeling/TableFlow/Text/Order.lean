import TableFlow.Text.CharClass

/-!
# The order of text by code points

Texts are ordered by their first difference: by the code points of the characters there, or by
where the shorter one ends. The order of the UTF-8 encodings by bytes is the same order.

Comparing texts is comparing the lists of their code points, for which the laws of an order are
known: they are handed over to texts here.

## Main results

* `compareCodePoints_eq`: the comparison of texts is the comparison of lists of numbers.
* The instances `Std.TransCmp` and `Std.LawfulEqCmp`: only equal texts compare as equal.
-/

namespace TableFlow.Text

/-- Compares two texts by code points. -/
def compareCodePoints : List Char → List Char → Ordering
  | [], [] => .eq
  | [], _ :: _ => .lt
  | _ :: _, [] => .gt
  | a :: as, b :: bs =>
      if codePoint a < codePoint b then .lt
      else if codePoint b < codePoint a then .gt
      else compareCodePoints as bs

/-- Tells if the first text precedes the second one. -/
def precedes (s t : String) : Bool := compareCodePoints s.toList t.toList == .lt

theorem compareCodePoints_eq (s t : List Char) :
    compareCodePoints s t = compare (s.map codePoint) (t.map codePoint) := by
  induction s generalizing t with
  | nil =>
      cases t with
      | nil => rfl
      | cons b t => rfl
  | cons a s ih =>
      cases t with
      | nil => rfl
      | cons b t =>
          rw [List.map_cons, List.map_cons, List.compare_cons_cons, compareCodePoints, ih,
            Nat.compare_eq_ite_lt]
          by_cases hLess : codePoint a < codePoint b
          · rw [if_pos hLess, if_pos hLess]
            rfl
          · rw [if_neg hLess, if_neg hLess]
            by_cases hGreater : codePoint b < codePoint a
            · rw [if_pos hGreater, if_pos hGreater]
              rfl
            · rw [if_neg hGreater, if_neg hGreater]
              rfl

instance : Std.TransCmp compareCodePoints where
  eq_swap := by
    intro s t
    rw [compareCodePoints_eq, compareCodePoints_eq]
    exact Std.OrientedCmp.eq_swap
  isLE_trans := by
    intro s t u hst htu
    rw [compareCodePoints_eq] at hst htu ⊢
    exact Std.TransCmp.isLE_trans hst htu

instance : Std.LawfulEqCmp compareCodePoints where
  compare_self := by
    intro s
    rw [compareCodePoints_eq]
    exact Std.LawfulEqCmp.compare_eq_iff_eq.2 rfl
  eq_of_compare := by
    intro s t h
    rw [compareCodePoints_eq, Std.LawfulEqCmp.compare_eq_iff_eq] at h
    exact (List.map_inj_right fun _ _ => codePoint_inj.1).1 h

end TableFlow.Text
