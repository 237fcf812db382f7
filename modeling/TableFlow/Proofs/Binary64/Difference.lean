import TableFlow.Binary64.Arithmetic
import TableFlow.Binary64.Order
import TableFlow.Proofs.Binary64.Rounding

/-!
# The sign of a difference

Rounding keeps the sign of an exact difference, since no count of units but zero is rounded to zero.
So the rounded difference of two binary64 numbers tells which one is larger, and does so even if the
difference is too large for the format. It tells nothing for NaN, and nothing for an infinity and
itself, whose difference is NaN.

## Main results

* `exists_rank_sub`: where a difference is a number, its rank has the sign of the exact difference
  of the ranks.
* `rank_sub_of_clash`: the differences that are no numbers.
-/

namespace TableFlow.Binary64

theorem unitsPerOne_pos : 0 < unitsPerOne := by decide +kernel

/-! ## Ranks -/

theorem rank_infinite (negative : Bool) :
    (Binary64.infinite negative).rank = some (signedUnits negative unitsLimit) := rfl

theorem rank_finite (negative : Bool) (units : Nat) (h : IsMagnitude units) :
    (Binary64.finite negative units h).rank = some (signedUnits negative units) := rfl

theorem exists_rank_of_isFinite {x : Binary64} (h : x.isFinite) :
    ∃ place, x.rank = some place := by
  cases x with
  | finite negative units hUnits => exact ⟨_, rank_finite negative units hUnits⟩
  | _ => cases h

theorem signedUnits_not (negative : Bool) (units : Nat) :
    signedUnits (!negative) units = -signedUnits negative units := by
  cases negative with
  | false => rfl
  | true => exact (Int.neg_neg _).symm

theorem natAbs_signedUnits (negative : Bool) (units : Nat) :
    (signedUnits negative units).natAbs = units := by
  cases negative with
  | false => rfl
  | true => exact Int.natAbs_neg _

/-- A finite number lies between the infinities. -/
theorem natAbs_rank_lt {negative : Bool} {units : Nat} (h : IsMagnitude units) :
    (signedUnits negative units).natAbs < unitsLimit := by
  rw [natAbs_signedUnits]
  exact h.1

/-- Nothing else is where an infinity is. -/
theorem eq_infinite_of_rank {x : Binary64} {negative : Bool}
    (h : x.rank = (Binary64.infinite negative).rank) : x = .infinite negative := by
  have hLimit := unitsLimit_pos
  cases x with
  | nan => cases h
  | infinite s =>
      have hUnits : signedUnits s unitsLimit = signedUnits negative unitsLimit :=
        Option.some.inj h
      by_cases hSame : s = negative
      · rw [hSame]
      · have hOpposite : s = !negative := Bool.eq_not_of_ne hSame
        rw [hOpposite, signedUnits_not] at hUnits
        have hNone := natAbs_signedUnits negative unitsLimit
        omega
  | finite s units hUnits =>
      have hBelow := @natAbs_rank_lt s units hUnits
      rw [rank_infinite, rank_finite, Option.some.injEq] at h
      rw [h, natAbs_signedUnits] at hBelow
      exact absurd hBelow (Nat.lt_irrefl _)

/-- A whole number that is held exactly stands at its count of units. -/
theorem rank_of_toInt? {x : Binary64} {n : Int} (h : x.toInt? = some n) :
    x.rank = some (n * unitsPerOne) := by
  cases x with
  | nan => cases h
  | infinite negative => cases h
  | finite negative units hUnits =>
      rw [toInt?] at h
      by_cases hWhole : units % unitsPerOne = 0
      · rw [if_pos hWhole, Option.some.injEq] at h
        have hUnits : units / unitsPerOne * unitsPerOne = units :=
          Nat.div_mul_cancel (Nat.dvd_of_mod_eq_zero hWhole)
        rw [rank_finite, ← h]
        cases negative with
        | false =>
            show some (units : Int) = some (((units / unitsPerOne : Nat) : Int) * unitsPerOne)
            rw [← Int.natCast_mul, hUnits]
        | true =>
            show some (-(units : Int)) = some (-((units / unitsPerOne : Nat) : Int) * unitsPerOne)
            rw [Int.neg_mul, ← Int.natCast_mul, hUnits]
      · rw [if_neg hWhole] at h
        cases h

/-! ## Rounding and signs -/

/-- No count of units but zero is rounded to zero. -/
theorem nearestUnits_eq_zero_iff (n : Nat) : nearestUnits n 1 = 0 ↔ n = 0 := by
  constructor
  · intro hRounded
    by_cases hZero : n = 0
    · exact hZero
    · have hPower := two_pow_log2_le_nearestUnits hZero
      have hPos := Nat.two_pow_pos n.log2
      omega
  · intro hZero
    rw [hZero, nearestUnits_of_isMagnitude isMagnitude_zero]

/-- A rounded count of units has the given sign, and is zero only if the count is. -/
theorem exists_rank_ofUnitRatio (negative : Bool) (n : Nat) :
    ∃ units, (ofUnitRatio negative n 1).rank = some (signedUnits negative units) ∧
      (units = 0 ↔ n = 0) := by
  unfold ofUnitRatio
  by_cases hReached : nearestUnits n 1 < unitsLimit
  · rw [dif_pos hReached]
    exact ⟨_, rfl, nearestUnits_eq_zero_iff n⟩
  · rw [dif_neg hReached]
    refine ⟨_, rfl, ?_⟩
    rw [← nearestUnits_eq_zero_iff n]
    have hPos := unitsLimit_pos
    omega

/-- Two whole numbers have the same sign. -/
structure SameSign (m n : Int) : Prop where
  negative : m < 0 ↔ n < 0
  zero : m = 0 ↔ n = 0

/-- Rounding a signed count of units keeps its sign. -/
theorem exists_rank_ofSignedUnits (zeroSign : Bool) (n : Int) :
    ∃ m, (ofSignedUnits zeroSign n).rank = some m ∧ SameSign m n := by
  unfold ofSignedUnits
  obtain ⟨units, hRank, hZero⟩ :=
    exists_rank_ofUnitRatio (if n = 0 then zeroSign else decide (n < 0)) n.natAbs
  refine ⟨_, hRank, ?_⟩
  by_cases hNone : n = 0
  · have hUnits : units = 0 := by omega
    have hSigned : ∀ negative, signedUnits negative 0 = 0 := by decide
    rw [hUnits, hNone, hSigned]
    exact ⟨Iff.rfl, Iff.rfl⟩
  · rw [if_neg hNone]
    by_cases hNegative : n < 0
    · rw [decide_eq_true hNegative]
      show SameSign (-(units : Int)) n
      constructor <;> omega
    · rw [decide_eq_false hNegative]
      show SameSign (units : Int) n
      constructor <;> omega

/-! ## Differences -/

theorem sub_eq (x y : Binary64) : x - y = x.add y.neg := rfl

/-- Two numbers whose difference is no number: one of them is none, or both are one infinity. -/
def Clash (x y : Binary64) : Prop :=
  x = .nan ∨ y = .nan ∨ ∃ negative, x = .infinite negative ∧ y = .infinite negative

theorem Clash.symm {x y : Binary64} (h : Clash x y) : Clash y x := by
  rcases h with hx | hy | ⟨negative, hx, hy⟩
  · exact .inr (.inl hx)
  · exact .inl hy
  · exact .inr (.inr ⟨negative, hy, hx⟩)

theorem rank_sub_of_clash {x y : Binary64} (h : Clash x y) : (x - y).rank = none := by
  rcases h with rfl | rfl | ⟨negative, rfl, rfl⟩
  · rfl
  · cases x with
    | nan => rfl
    | infinite negative => rfl
    | finite negative units h => rfl
  · cases negative with
    | false => rfl
    | true => rfl

private theorem sameSign_signedUnits_sub {big : Nat} {n : Int} (h : n.natAbs < big)
    (negative : Bool) : SameSign (signedUnits negative big) (signedUnits negative big - n) := by
  cases negative with
  | false =>
      show SameSign (big : Int) (big - n)
      constructor <;> omega
  | true =>
      show SameSign (-(big : Int)) (-big - n)
      constructor <;> omega

private theorem sameSign_signedUnits_double {big : Nat} (h : 0 < big) (negative : Bool) :
    SameSign (signedUnits negative big)
      (signedUnits negative big - signedUnits (!negative) big) := by
  cases negative with
  | false =>
      show SameSign (big : Int) (big - -(big : Int))
      constructor <;> omega
  | true =>
      show SameSign (-(big : Int)) (-big - (big : Int))
      constructor <;> omega

/-- Where a difference is a number, its rank has the sign of the difference of the ranks. -/
theorem exists_rank_sub {x y : Binary64} (h : ¬ Clash x y) :
    ∃ m n d, x.rank = some m ∧ y.rank = some n ∧ (x - y).rank = some d ∧ SameSign d (m - n) := by
  cases x with
  | nan => exact absurd (.inl rfl) h
  | infinite s =>
      cases y with
      | nan => exact absurd (.inr (.inl rfl)) h
      | infinite t =>
          have hOther : t = !s := by
            by_cases hSame : t = s
            · exact absurd (.inr (.inr ⟨s, rfl, by rw [hSame]⟩)) h
            · cases s <;> cases t <;> simp at hSame ⊢
          subst hOther
          have hSub : Binary64.infinite s - .infinite (!s) = .infinite s := by
            cases s <;> rfl
          rw [hSub]
          exact ⟨_, _, _, rfl, rfl, rfl, sameSign_signedUnits_double unitsLimit_pos s⟩
      | finite t b hb =>
          have hSub : Binary64.infinite s - .finite t b hb = .infinite s := rfl
          rw [hSub]
          exact ⟨_, _, _, rfl, rfl, rfl, sameSign_signedUnits_sub (natAbs_rank_lt hb) s⟩
  | finite s a ha =>
      cases y with
      | nan => exact absurd (.inr (.inl rfl)) h
      | infinite t =>
          have hSub : Binary64.finite s a ha - .infinite t = .infinite (!t) := rfl
          rw [hSub]
          refine ⟨_, _, _, rfl, rfl, rfl, ?_⟩
          have hSign := @sameSign_signedUnits_sub unitsLimit (-signedUnits s a)
            (by rw [Int.natAbs_neg]; exact natAbs_rank_lt ha) (!t)
          rwa [signedUnits_not, Int.sub_neg, Int.add_comm, ← Int.sub_eq_add_neg,
            ← signedUnits_not] at hSign
      | finite t b hb =>
          have hSub : Binary64.finite s a ha - .finite t b hb =
              ofSignedUnits (s && !t) (signedUnits s a + signedUnits (!t) b) := by
            rw [sub_eq, neg, add]
          obtain ⟨d, hRank, hSign⟩ :=
            exists_rank_ofSignedUnits (s && !t) (signedUnits s a + signedUnits (!t) b)
          rw [signedUnits_not, ← Int.sub_eq_add_neg] at hSign
          rw [hSub]
          exact ⟨_, _, d, rfl, rfl, hRank, hSign⟩

end TableFlow.Binary64
