import TableFlow.Nearest

/-!
# Decimal digits of whole numbers

`Decimal.digits n` is the list of the decimal digits of `n`, the most significant one first and
without leading zeros; `Decimal.ofDigits` is the number that a list of digits denotes.

## Main results

* `Decimal.digits_of_ten_le`: the digits of `n` are those of `n / 10` followed by `n % 10`.
* `Decimal.ofDigits_digits`: the digits of a number denote it, so distinct numbers have distinct
  digits.
-/

namespace TableFlow.Decimal

/-- The digits of `n` in front of `tail`; `2 ^ fuel` bounds `n`. -/
def digitsOnto : Nat → Nat → List Nat → List Nat
  | 0, _, tail => tail
  | fuel + 1, n, tail =>
      if n < 10 then n :: tail else digitsOnto fuel (n / 10) (n % 10 :: tail)

/-- The decimal digits of a number, most significant first. -/
def digits (n : Nat) : List Nat := digitsOnto (n.log2 + 1) n []

/-- The number that a list of digits denotes. -/
def ofDigits (ds : List Nat) : Nat := ds.foldl (fun n d => 10 * n + d) 0

theorem digitsOnto_append (fuel n : Nat) (xs ys : List Nat) :
    digitsOnto fuel n (xs ++ ys) = digitsOnto fuel n xs ++ ys := by
  induction fuel generalizing n xs with
  | zero => rfl
  | succ fuel ih =>
    unfold digitsOnto
    split
    · rfl
    · exact ih (n / 10) (n % 10 :: xs)

theorem digitsOnto_eq_append (fuel n : Nat) (tail : List Nat) :
    digitsOnto fuel n tail = digitsOnto fuel n [] ++ tail :=
  digitsOnto_append fuel n [] tail

/-- More fuel than the number needs changes nothing. -/
theorem digitsOnto_fuel {n fuel fuel' : Nat} (tail : List Nat) (h : n < 2 ^ fuel)
    (h' : n < 2 ^ fuel') (hPos : 0 < fuel) (hPos' : 0 < fuel') :
    digitsOnto fuel n tail = digitsOnto fuel' n tail := by
  induction fuel generalizing n fuel' tail with
  | zero => omega
  | succ fuel ih =>
    cases fuel' with
    | zero => omega
    | succ fuel' =>
      unfold digitsOnto
      split
      · rfl
      · have hFuel : 0 < fuel := by
          cases fuel with
          | zero => omega
          | succ => omega
        have hFuel' : 0 < fuel' := by
          cases fuel' with
          | zero => omega
          | succ => omega
        rw [Nat.pow_succ] at h h'
        exact ih _ (by omega) (by omega) hFuel hFuel'

theorem digits_of_lt_ten {n : Nat} (h : n < 10) : digits n = [n] := by
  simp [digits, digitsOnto, h]

/-- The digits of a number are those of its tenth followed by its last digit. -/
theorem digits_of_ten_le {n : Nat} (h : 10 ≤ n) : digits n = digits (n / 10) ++ [n % 10] := by
  have hLog : 3 ≤ n.log2 := (Nat.le_log2 (by omega)).2 (by omega)
  have hBound : n / 10 < 2 ^ n.log2 := by
    have := @Nat.lt_log2_self n
    rw [Nat.pow_succ] at this
    omega
  rw [digits, digitsOnto, if_neg (by omega), digitsOnto_eq_append,
    digitsOnto_fuel [] hBound Nat.lt_log2_self (by omega) (by omega)]
  rfl

theorem ofDigits_append_singleton (ds : List Nat) (d : Nat) :
    ofDigits (ds ++ [d]) = 10 * ofDigits ds + d := by
  simp [ofDigits, List.foldl_append]

theorem ofDigits_digits (n : Nat) : ofDigits (digits n) = n := by
  induction n using Nat.strongRecOn with
  | _ n ih =>
    by_cases h : n < 10
    · simp [digits_of_lt_ten h, ofDigits]
    · rw [digits_of_ten_le (by omega), ofDigits_append_singleton, ih (n / 10) (by omega)]
      omega

theorem lt_ten_of_mem_digits {n d : Nat} (h : d ∈ digits n) : d < 10 := by
  induction n using Nat.strongRecOn with
  | _ n ih =>
    by_cases hn : n < 10
    · simp [digits_of_lt_ten hn] at h
      omega
    · rw [digits_of_ten_le (by omega), List.mem_append, List.mem_singleton] at h
      rcases h with h | h
      · exact ih (n / 10) (by omega) h
      · omega

theorem digits_ne_nil (n : Nat) : digits n ≠ [] := by
  by_cases h : n < 10
  · simp [digits_of_lt_ten h]
  · simp [digits_of_ten_le (Nat.le_of_not_lt h)]

/-- The character of a digit. -/
def digitChar (d : Nat) : Char := Char.ofNat ('0'.toNat + d)

/-- The decimal numeral of a natural number. -/
def numeral (n : Nat) : List Char := (digits n).map digitChar

/-- The decimal numeral of a whole number. -/
def signedNumeral (n : Int) : List Char :=
  if n < 0 then '-' :: numeral n.natAbs else numeral n.natAbs

/-- The numeral of a number, zeros put in front of it up to the width. -/
def paddedNumeral (width n : Nat) : List Char :=
  let ds := numeral n
  List.replicate (width - ds.length) '0' ++ ds

/-- Numerals of whole numbers are written and read up to this many digits. -/
def digitLimit : Nat := 4300

end TableFlow.Decimal
