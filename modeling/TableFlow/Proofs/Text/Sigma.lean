import Mathlib.Data.List.Forall2
import Mathlib.Data.List.Infix
import Mathlib.Data.List.TakeWhile
import TableFlow.Text.Case

/-!
# Lower case of a piece of a text

Lower case acts on each character by itself, with one exception: the form of a capital sigma depends
on the characters around it. So a piece of a text and the same piece alone can differ in lower case,
in one of two ways. What follows the piece can take the final form from its last sigma, and what
stands in front of the piece can give it to its first sigma. Each way needs a sigma at the end of
the piece in question, up to characters that do not count when the end of a word is looked for.

## Main results

* `lowerBetween_eq_iff`: surroundings make no difference exactly if no sigma changes its form.
* `lower_prefix_iff` and `lower_suffix_iff`: the texts that begin and end with a piece, and still do
  so in lower case.
* `forall_lower_infix_iff`: the pieces that are found in lower case in all texts that hold them.
-/

namespace TableFlow.Text

/-! ## The next character that counts -/

/-- Characters that do not count leave the question to those behind them. -/
theorem startsCased_append_of_forall {cs : List Char} (h : ∀ c ∈ cs, isCaseIgnorable c)
    (more : List Char) : startsCased (cs ++ more) = startsCased more := by
  unfold startsCased
  rw [List.dropWhile_append_of_pos h]

/-- The first character that counts answers it. -/
theorem startsCased_append_of_not_forall {cs : List Char} (h : ¬ ∀ c ∈ cs, isCaseIgnorable c)
    (more : List Char) : startsCased (cs ++ more) = startsCased cs := by
  have hSome : cs.dropWhile isCaseIgnorable ≠ [] := mt List.dropWhile_eq_nil_iff.1 h
  obtain ⟨c, rest, hRest⟩ := List.exists_cons_of_ne_nil hSome
  unfold startsCased
  rw [List.dropWhile_append, hRest]
  rfl

theorem startsCased_of_forall {cs : List Char} (h : ∀ c ∈ cs, isCaseIgnorable c) :
    startsCased cs = false := by
  have hNone := startsCased_append_of_forall h []
  rwa [List.append_nil] at hNone

/-- More characters behind do not take a cased one away. -/
theorem startsCased_append_of_startsCased {cs : List Char} (h : startsCased cs) (more : List Char) :
    startsCased (cs ++ more) := by
  rw [startsCased_append_of_not_forall]
  · exact h
  · intro hAll
    rw [startsCased_of_forall hAll] at h
    cases h

/-! ## Sigmas and their surroundings -/

/-- Tells if a capital sigma between two parts of a text has the final form. The part before it is
given in reverse. -/
def isFinal (before after : List Char) : Bool := startsCased before && !startsCased after

/-- Lower case of a piece of a text, with the parts before it, in reverse, and after it. -/
def lowerBetween : List Char → List Char → List Char → List Char
  | _, [], _ => []
  | before, c :: rest, after =>
      (if c = capitalSigma then
        if isFinal before (rest ++ after) then ['ς'] else ['σ']
      else
        lowerMapping.image c) ++ lowerBetween (c :: before) rest after

theorem lowerAfter_append (before cs after : List Char) :
    lowerAfter before (cs ++ after) =
      lowerBetween before cs after ++ lowerAfter (cs.reverse ++ before) after := by
  induction cs generalizing before with
  | nil => rfl
  | cons c cs ih =>
      rw [List.cons_append, lowerAfter, ih, lowerBetween, List.append_assoc, List.reverse_cons,
        List.append_assoc]
      rfl

theorem lowerAfter_eq_lowerBetween (before cs : List Char) :
    lowerAfter before cs = lowerBetween before cs [] := by
  have hWhole := lowerAfter_append before cs []
  rwa [List.append_nil, lowerAfter, List.append_nil] at hWhole

/-- Lower case of a text, piece by piece. -/
theorem lower_append (front cs back : List Char) :
    lower (front ++ cs ++ back) =
      lowerBetween [] front (cs ++ back) ++ lowerBetween front.reverse cs back ++
        lowerAfter (cs.reverse ++ front.reverse) back := by
  rw [lower, List.append_assoc, lowerAfter_append, lowerAfter_append, List.append_nil,
    List.append_assoc]

theorem length_lowerBetween_eq (before cs after before' after' : List Char) :
    (lowerBetween before cs after).length = (lowerBetween before' cs after').length := by
  induction cs generalizing before before' with
  | nil => rfl
  | cons c cs ih =>
      rw [lowerBetween, lowerBetween, List.length_append, List.length_append,
        ih (c :: before) (c :: before')]
      split
      · split <;> split <;> rfl
      · rfl

/-- Surroundings make no difference exactly if no capital sigma changes its form. -/
theorem lowerBetween_eq_iff (before cs after before' after' : List Char) :
    lowerBetween before cs after = lowerBetween before' cs after' ↔
      ∀ front back, cs = front ++ capitalSigma :: back →
        isFinal (front.reverse ++ before) (back ++ after) =
          isFinal (front.reverse ++ before') (back ++ after') := by
  induction cs generalizing before before' with
  | nil => exact iff_of_true rfl fun front back h => by simp at h
  | cons c cs ih =>
      have hParts : lowerBetween before (c :: cs) after = lowerBetween before' (c :: cs) after' ↔
          (c = capitalSigma → isFinal before (cs ++ after) = isFinal before' (cs ++ after')) ∧
            lowerBetween (c :: before) cs after = lowerBetween (c :: before') cs after' := by
        rw [lowerBetween, lowerBetween]
        constructor
        · intro h
          obtain ⟨hImage, hRest⟩ := List.append_inj' h (length_lowerBetween_eq ..)
          refine ⟨fun hSigma => ?_, hRest⟩
          rw [if_pos hSigma, if_pos hSigma] at hImage
          cases hForm : isFinal before (cs ++ after) <;>
            cases hForm' : isFinal before' (cs ++ after') <;> simp [hForm, hForm'] at hImage ⊢
        · rintro ⟨hForm, hRest⟩
          rw [hRest]
          split
          · next hSigma => rw [hForm hSigma]
          · rfl
      rw [hParts, ih]
      constructor
      · rintro ⟨hFirst, hRest⟩ front back hSplit
        cases front with
        | nil =>
            cases hSplit
            exact hFirst rfl
        | cons first front =>
            cases hSplit
            simpa using hRest front back rfl
      · intro h
        refine ⟨fun hSigma => h [] cs (by rw [hSigma]; rfl), fun front back hSplit => ?_⟩
        simpa using h (c :: front) back (by rw [hSplit]; rfl)

/-! ## Pieces that depend on their surroundings -/

/-- The last sigma of a piece has the final form, unless a cased character follows the piece. -/
def EndsWithFinalSigma (cs : List Char) : Prop :=
  ∃ front back, cs = front ++ capitalSigma :: back ∧ startsCased front.reverse ∧
    ∀ c ∈ back, isCaseIgnorable c

/-- The first sigma of a piece has the final form only if a cased character precedes the piece. -/
def StartsWithLoneSigma (cs : List Char) : Prop :=
  ∃ front back, cs = front ++ capitalSigma :: back ∧ (∀ c ∈ front, isCaseIgnorable c) ∧
    startsCased back = false

/-- What follows a piece changes it exactly if it takes the final form from the last sigma. -/
theorem lowerBetween_after_iff (cs after : List Char) :
    lowerBetween [] cs after = lower cs ↔ ¬ (EndsWithFinalSigma cs ∧ startsCased after) := by
  rw [lower, lowerAfter_eq_lowerBetween, lowerBetween_eq_iff]
  constructor
  · rintro h ⟨⟨front, back, hSplit, hFront, hBack⟩, hAfter⟩
    have hForm := h front back hSplit
    have hMore : startsCased (back ++ after) = true := by
      rw [startsCased_append_of_forall hBack]
      exact hAfter
    simp [isFinal, hFront, hMore, startsCased_of_forall hBack] at hForm
  · intro h front back hSplit
    rw [List.append_nil, List.append_nil]
    unfold isFinal
    cases hFront : startsCased front.reverse with
    | false => rfl
    | true =>
        by_cases hBack : ∀ c ∈ back, isCaseIgnorable c
        · have hAfter : startsCased after = false := by
            rw [← Bool.not_eq_true]
            exact fun hAfter => h ⟨⟨front, back, hSplit, hFront, hBack⟩, hAfter⟩
          rw [startsCased_append_of_forall hBack, hAfter, startsCased_of_forall hBack]
        · rw [startsCased_append_of_not_forall hBack]

/-- What precedes a piece changes it exactly if it gives the final form to the first sigma. -/
theorem lowerBetween_before_iff (before cs : List Char) :
    lowerBetween before cs [] = lower cs ↔ ¬ (StartsWithLoneSigma cs ∧ startsCased before) := by
  rw [lower, lowerAfter_eq_lowerBetween, lowerBetween_eq_iff]
  constructor
  · rintro h ⟨⟨front, back, hSplit, hFront, hBack⟩, hBefore⟩
    have hForm := h front back hSplit
    have hReverse : ∀ c ∈ front.reverse, isCaseIgnorable c := by simpa using hFront
    have hMore : startsCased (front.reverse ++ before) = true := by
      rw [startsCased_append_of_forall hReverse]
      exact hBefore
    simp [isFinal, hBack, hMore, startsCased_of_forall hReverse] at hForm
  · intro h front back hSplit
    rw [List.append_nil, List.append_nil]
    unfold isFinal
    cases hBack : startsCased back with
    | true => rw [Bool.not_true, Bool.and_false, Bool.and_false]
    | false =>
        by_cases hFront : ∀ c ∈ front.reverse, isCaseIgnorable c
        · have hForward : ∀ c ∈ front, isCaseIgnorable c := by simpa using hFront
          have hBefore : startsCased before = false := by
            rw [← Bool.not_eq_true]
            exact fun hBefore => h ⟨⟨front, back, hSplit, hForward, hBack⟩, hBefore⟩
          rw [startsCased_append_of_forall hFront, hBefore, startsCased_of_forall hFront]
        · rw [startsCased_append_of_not_forall hFront]

/-- Surroundings change nothing if there is neither of the two. -/
theorem lowerBetween_eq_lower {cs : List Char} (hEnd : ¬ EndsWithFinalSigma cs)
    (hStart : ¬ StartsWithLoneSigma cs) (before after : List Char) :
    lowerBetween before cs after = lower cs := by
  rw [lower, lowerAfter_eq_lowerBetween, lowerBetween_eq_iff]
  intro front back hSplit
  rw [List.append_nil, List.append_nil]
  unfold isFinal
  by_cases hFront : ∀ c ∈ front.reverse, isCaseIgnorable c
  · have hForward : ∀ c ∈ front, isCaseIgnorable c := by simpa using hFront
    have hBack : startsCased back = true := by
      rw [← Bool.not_eq_false]
      exact fun hBack => hStart ⟨front, back, hSplit, hForward, hBack⟩
    rw [hBack, startsCased_append_of_startsCased hBack, Bool.not_true, Bool.and_false,
      Bool.and_false]
  · rw [startsCased_append_of_not_forall hFront]
    cases hCased : startsCased front.reverse with
    | false => rfl
    | true =>
        have hBack : ¬ ∀ c ∈ back, isCaseIgnorable c :=
          fun hBack => hEnd ⟨front, back, hSplit, hCased, hBack⟩
        rw [startsCased_append_of_not_forall hBack]

/-! ## Texts that hold a piece -/

/-- A text that begins with a piece does so in lower case, unless it takes the final form from the
last sigma of the piece. -/
theorem lower_prefix_iff (cs back : List Char) :
    lower cs <+: lower (cs ++ back) ↔ ¬ (EndsWithFinalSigma cs ∧ startsCased back) := by
  rw [← lowerBetween_after_iff]
  have hLength : (lowerBetween [] cs back).length = (lower cs).length := by
    rw [lower, lowerAfter_eq_lowerBetween, length_lowerBetween_eq]
  have hWhole : lower (cs ++ back) =
      lowerBetween [] cs back ++ lowerAfter (cs.reverse ++ []) back := lowerAfter_append [] cs back
  rw [hWhole]
  constructor
  · intro h
    exact (List.prefix_of_prefix_length_le (List.prefix_append ..) h hLength.le).eq_of_length
      hLength
  · intro h
    rw [h]
    exact List.prefix_append ..

/-- A text that ends with a piece does so in lower case, unless it gives the final form to the first
sigma of the piece. -/
theorem lower_suffix_iff (front cs : List Char) :
    lower cs <:+ lower (front ++ cs) ↔ ¬ (StartsWithLoneSigma cs ∧ startsCased front.reverse) := by
  rw [← lowerBetween_before_iff]
  have hLength : (lowerBetween front.reverse cs []).length = (lower cs).length := by
    rw [lower, lowerAfter_eq_lowerBetween, length_lowerBetween_eq]
  have hWhole : lower (front ++ cs) =
      lowerBetween [] front cs ++ lowerBetween front.reverse cs [] := by
    rw [lower, lowerAfter_append, lowerAfter_eq_lowerBetween, List.append_nil]
  rw [hWhole]
  constructor
  · intro h
    exact (List.suffix_of_suffix_length_le (List.suffix_append ..) h hLength.le).eq_of_length
      hLength
  · intro h
    rw [h]
    exact List.suffix_append ..

/-- A text that holds a piece without such sigmas does so in lower case. -/
theorem lower_infix {cs : List Char} (hEnd : ¬ EndsWithFinalSigma cs)
    (hStart : ¬ StartsWithLoneSigma cs) (front back : List Char) :
    lower cs <:+: lower (front ++ cs ++ back) := by
  rw [lower_append, lowerBetween_eq_lower hEnd hStart]
  exact ⟨_, _, rfl⟩

/-! ## Counting the forms of sigma -/

/-- Trading one character for another one takes from the count of the one and adds to the count of
the other. -/
theorem count_of_traded {a b : Char} (hab : a ≠ b) {xs ys : List Char}
    (h : List.Forall₂ (fun x y => x = y ∨ x = a ∧ y = b) xs ys) :
    xs = ys ∨ (ys.count a < xs.count a ∧ xs.count b < ys.count b) := by
  induction h with
  | nil => exact .inl rfl
  | cons hFirst hRest ih =>
      obtain rfl | ⟨rfl, rfl⟩ := hFirst
      · obtain rfl | ⟨hLess, hMore⟩ := ih
        · exact .inl rfl
        · refine .inr ?_
          rw [List.count_cons, List.count_cons, List.count_cons, List.count_cons]
          omega
      · refine .inr ?_
        have hba := hab.symm
        simp only [List.count_cons_self, List.count_cons_of_ne hab, List.count_cons_of_ne hba]
        obtain rfl | ⟨hLess, hMore⟩ := ih <;> omega

/-- Surroundings that give no sigma the final form trade the final form for the other one. -/
theorem traded_lowerBetween {before cs after before' after' : List Char}
    (h : ∀ front back, cs = front ++ capitalSigma :: back →
      isFinal (front.reverse ++ before') (back ++ after') →
        isFinal (front.reverse ++ before) (back ++ after)) :
    List.Forall₂ (fun x y => x = y ∨ x = 'ς' ∧ y = 'σ') (lowerBetween before cs after)
      (lowerBetween before' cs after') := by
  induction cs generalizing before before' with
  | nil => exact .nil
  | cons c cs ih =>
      rw [lowerBetween, lowerBetween]
      refine List.rel_append ?_ (ih fun front back hSplit => ?_)
      · split
        · next hSigma =>
          have hForm := h [] cs (by rw [hSigma]; rfl)
          simp only [List.reverse_nil, List.nil_append] at hForm
          cases hOld : isFinal before (cs ++ after) <;>
            cases hNew : isFinal before' (cs ++ after') <;> simp [hOld, hNew] at hForm ⊢
        · exact List.forall₂_same.2 fun _ _ => .inl rfl
      · simpa using h (c :: front) back (by rw [hSplit]; rfl)

/-- A capital letter that is not a sigma. -/
def capitalAlpha : Char := 'Α'

theorem startsCased_capitalAlpha : startsCased [capitalAlpha] = true := by decide +kernel

theorem lowerBetween_capitalAlpha (before after : List Char) :
    lowerBetween before [capitalAlpha] after = ['α'] := by
  have hImage : lowerMapping.image capitalAlpha = ['α'] := by decide +kernel
  rw [lowerBetween, if_neg (by decide), hImage]
  rfl

/-- A piece that ends with a final sigma is not found where a letter follows it. -/
theorem not_lower_infix_concat {cs : List Char} (h : EndsWithFinalSigma cs) :
    ¬ lower cs <:+: lower (cs ++ [capitalAlpha]) := by
  intro hInfix
  have hWhole : lower (cs ++ [capitalAlpha]) = lowerBetween [] cs [capitalAlpha] ++ ['α'] := by
    rw [lower, lowerAfter_append, lowerAfter_eq_lowerBetween, lowerBetween_capitalAlpha]
  have hTraded := @traded_lowerBetween [] cs [] [] [capitalAlpha] fun front back _ hForm => by
    rw [List.append_nil back]
    unfold isFinal at hForm ⊢
    rw [Bool.and_eq_true, Bool.not_eq_true'] at hForm ⊢
    refine ⟨hForm.1, ?_⟩
    rw [← Bool.not_eq_true] at hForm ⊢
    exact fun hBack => hForm.2 (startsCased_append_of_startsCased hBack _)
  rw [← lowerAfter_eq_lowerBetween] at hTraded
  obtain hSame | ⟨hFewer, -⟩ := count_of_traded (by decide) hTraded
  · exact (lowerBetween_after_iff cs [capitalAlpha]).1 hSame.symm ⟨h, startsCased_capitalAlpha⟩
  · have hCount := hInfix.sublist.count_le 'ς'
    rw [hWhole, List.count_append, List.count_singleton] at hCount
    exact absurd hFewer (Nat.not_lt.2 hCount)

/-- A piece that starts with a lone sigma is not found where a letter precedes it. -/
theorem not_lower_infix_cons {cs : List Char} (h : StartsWithLoneSigma cs) :
    ¬ lower cs <:+: lower (capitalAlpha :: cs) := by
  intro hInfix
  have hWhole : lower (capitalAlpha :: cs) = ['α'] ++ lowerBetween [capitalAlpha] cs [] := by
    show lowerAfter [] ([capitalAlpha] ++ cs) = _
    rw [lowerAfter_append, lowerAfter_eq_lowerBetween, lowerBetween_capitalAlpha]
    rfl
  have hTraded := @traded_lowerBetween [capitalAlpha] cs [] [] [] fun front back _ hForm => by
    rw [List.append_nil front.reverse] at hForm
    unfold isFinal at hForm ⊢
    rw [Bool.and_eq_true] at hForm ⊢
    exact ⟨startsCased_append_of_startsCased hForm.1 _, hForm.2⟩
  rw [← lowerAfter_eq_lowerBetween [] cs] at hTraded
  obtain hSame | ⟨-, hFewer⟩ := count_of_traded (by decide) hTraded
  · exact (lowerBetween_before_iff [capitalAlpha] cs).1 hSame ⟨h, startsCased_capitalAlpha⟩
  · have hCount := hInfix.sublist.count_le 'σ'
    rw [hWhole, List.count_append, List.count_singleton] at hCount
    have hOther : ('α' == 'σ') = false := by decide
    rw [hOther] at hCount
    simp only [Bool.false_eq_true, if_false, Nat.zero_add] at hCount
    exact absurd hFewer (Nat.not_lt.2 hCount)

/-- The pieces that are found in lower case in all texts that hold them. -/
theorem forall_lower_infix_iff (cs : List Char) :
    (∀ front back, lower cs <:+: lower (front ++ cs ++ back)) ↔
      ¬ EndsWithFinalSigma cs ∧ ¬ StartsWithLoneSigma cs := by
  constructor
  · intro h
    exact ⟨fun hEnd => not_lower_infix_concat hEnd (h [] [capitalAlpha]),
      fun hStart => not_lower_infix_cons hStart (by simpa using h [capitalAlpha] [])⟩
  · rintro ⟨hEnd, hStart⟩ front back
    exact lower_infix hEnd hStart front back

end TableFlow.Text
