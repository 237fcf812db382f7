/-!
# Merge sort with a comparison that may fail

`mergeSortM` sorts a list by a comparison that has a result or fails, and fails as soon as a
comparison it makes does. Elements that the comparison does not separate keep their order.

Where the comparison is a total preorder, every stable sort gives the same list, and which of them
this one is does not matter. Where it is not — numbers mixed with texts, or infinities of one sign —
sorts that make other comparisons may give other permutations of the list, and may fail at a
comparison that this one does not make.
-/

namespace TableFlow

variable {α ε : Type}

/-- Merges two lists; of two elements that are in order, the one of the first list comes first. -/
def mergeM (le : α → α → Except ε Bool) : List α → List α → Except ε (List α)
  | [], ys => .ok ys
  | xs, [] => .ok xs
  | x :: xs, y :: ys => do
      if ← le x y then
        let rest ← mergeM le xs (y :: ys)
        .ok (x :: rest)
      else
        let rest ← mergeM le (x :: xs) ys
        .ok (y :: rest)
termination_by xs ys => xs.length + ys.length

/-- Sorts a list. -/
def mergeSortM (le : α → α → Except ε Bool) : List α → Except ε (List α)
  | [] => .ok []
  | [x] => .ok [x]
  | x :: y :: rest => do
      let whole := x :: y :: rest
      let middle := (whole.length + 1) / 2
      let front ← mergeSortM le (whole.take middle)
      let back ← mergeSortM le (whole.drop middle)
      mergeM le front back
termination_by xs => xs.length
decreasing_by
  · simp only [List.length_take, List.length_cons]
    omega
  · simp only [List.length_drop, List.length_cons]
    omega

end TableFlow
