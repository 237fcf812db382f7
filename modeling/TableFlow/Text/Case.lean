import TableFlow.Text.Case.Context
import TableFlow.Text.Case.Table

/-!
# Lower case, upper case and case folding of text

All three replace each character by its image under a `CaseMapping`, and two of them do nothing
else. Lower case has one rule more: a capital sigma at the end of a word has the final form.
-/

namespace TableFlow.Text

/-- The code point that a run maps a code point to, if the run covers it. -/
def CaseRun.image? (run : CaseRun) (code : Nat) : Option Nat :=
  if run.first ≤ code ∧ code ≤ run.last ∧ (code - run.first) % run.step = 0 then
    some ((code : Int) + run.offset).toNat
  else
    none

/-- The image of a character. -/
def CaseMapping.image (mapping : CaseMapping) (c : Char) : List Char :=
  match mapping.runs.findSome? (·.image? c.toNat) with
  | some code => [Char.ofNat code]
  | none =>
      match mapping.expansions.lookup c.toNat with
      | some codes => codes.map Char.ofNat
      | none => [c]

/-- The capital sigma. -/
def capitalSigma : Char := 'Σ'

/-- Lower case of a text; `before` is the part before it, in reverse. -/
def lowerAfter : List Char → List Char → List Char
  | _, [] => []
  | before, c :: rest =>
      let image :=
        if c = capitalSigma then
          if startsCased before && !startsCased rest then ['ς'] else ['σ']
        else
          lowerMapping.image c
      image ++ lowerAfter (c :: before) rest

/-- Lower case. -/
def lower (cs : List Char) : List Char := lowerAfter [] cs

/-- Upper case. -/
def upper (cs : List Char) : List Char := cs.flatMap upperMapping.image

/-- The form in which texts are compared without regard to case. -/
def fold (cs : List Char) : List Char := cs.flatMap foldMapping.image

end TableFlow.Text
