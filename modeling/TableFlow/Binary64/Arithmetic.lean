import TableFlow.Binary64.Basic

/-!
# Arithmetic on binary64 numbers

Sums, products and quotients are computed exactly on counts of units and rounded once. An exact
sum of two finite numbers that is zero has a negative sign only if both were negative; the sign of
a product or a quotient is negative if the signs differ.
-/

namespace TableFlow.Binary64

def neg : Binary64 → Binary64
  | .nan => .nan
  | .infinite negative => .infinite !negative
  | .finite negative units h => .finite (!negative) units h

/-- The number nearest to a signed count of units; `zeroSign` is the sign of a zero. -/
def ofSignedUnits (zeroSign : Bool) (units : Int) : Binary64 :=
  ofUnitRatio (if units = 0 then zeroSign else decide (units < 0)) units.natAbs 1

def add : Binary64 → Binary64 → Binary64
  | .nan, _ => .nan
  | _, .nan => .nan
  | .infinite s, .infinite t => if s = t then .infinite s else .nan
  | .infinite s, .finite .. => .infinite s
  | .finite .., .infinite t => .infinite t
  | .finite s a _, .finite t b _ => ofSignedUnits (s && t) (signedUnits s a + signedUnits t b)

def sub (x y : Binary64) : Binary64 := x.add y.neg

def mul : Binary64 → Binary64 → Binary64
  | .nan, _ => .nan
  | _, .nan => .nan
  | .infinite s, .infinite t => .infinite (s ^^ t)
  | .infinite s, .finite t b _ => if b = 0 then .nan else .infinite (s ^^ t)
  | .finite s a _, .infinite t => if a = 0 then .nan else .infinite (s ^^ t)
  | .finite s a _, .finite t b _ => ofUnitRatio (s ^^ t) (a * b) unitsPerOne

def div : Binary64 → Binary64 → Binary64
  | .nan, _ => .nan
  | _, .nan => .nan
  | .infinite _, .infinite _ => .nan
  | .infinite s, .finite t _ _ => .infinite (s ^^ t)
  | .finite s _ _, .infinite t => .finite (s ^^ t) 0 isMagnitude_zero
  | .finite s a _, .finite t b _ =>
      if b = 0 then
        if a = 0 then .nan else .infinite (s ^^ t)
      else
        ofRatio (s ^^ t) a b

/-- The remainder of a division truncated toward zero, with the sign of the dividend; `none` where
there is no remainder: the dividend is infinite or the divisor is zero. -/
def rem? : Binary64 → Binary64 → Option Binary64
  | .nan, _ => some .nan
  | _, .nan => some .nan
  | .infinite _, _ => none
  | x@(.finite ..), .infinite _ => some x
  | .finite s a _, .finite _ b _ => if b = 0 then none else some (ofUnitRatio s (a % b) 1)

/-- The quotient of two whole numbers, rounded once; `none` if it is too large. -/
def ofIntRatio? (num den : Int) : Option Binary64 :=
  let x := ofRatio (decide (num < 0) ^^ decide (den < 0)) num.natAbs den.natAbs
  if x.isFinite then some x else none

instance : Neg Binary64 := ⟨neg⟩
instance : Add Binary64 := ⟨add⟩
instance : Sub Binary64 := ⟨sub⟩
instance : Mul Binary64 := ⟨mul⟩
instance : Div Binary64 := ⟨div⟩

end TableFlow.Binary64
