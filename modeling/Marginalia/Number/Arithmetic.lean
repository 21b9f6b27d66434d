import Marginalia.Number.Binary64

/-!
# Arithmetic on binary floating point

Sums, differences and products are the exact results, rounded once to the nearest number. An exact
zero has a sign only where both operands agree on one.

## Main definitions

* `Binary64.ofFraction`: the nearest number to a fraction
* `Binary64.ofInt?`: the nearest number to an integer, unless it is too large
* `Binary64.negate`, `Binary64.add`, `Binary64.sub`, `Binary64.mul`: the operations

## Main results

* `Binary64.negate_negate`: negating twice changes nothing
-/

namespace Marginalia

namespace Binary64

/-- Whether the number has a minus sign. -/
def isNegative : Binary64 → Bool
  | .finite s _ _ => s
  | .infinite s => s
  | .nan => false

/-- The number with the other sign. -/
def negate : Binary64 → Binary64
  | .finite s m q => .finite (!s) m q
  | .infinite s => .infinite (!s)
  | .nan => .nan

/-- **Negating twice changes nothing.** -/
@[simp] theorem negate_negate (x : Binary64) : x.negate.negate = x := by
  cases x <;> simp [negate]

/-- The nearest number to a fraction; `negativeZero` tells the sign of an exact zero. -/
def ofFraction (negativeZero : Bool) (num : Int) (den : Nat) : Binary64 :=
  if num = 0 then zero negativeZero else ofRatio (num < 0) num.natAbs den

/-- The nearest number to an integer, unless it is too large. -/
def ofInt? (i : Int) : Option Binary64 :=
  match ofFraction false i 1 with
  | .infinite _ => none
  | x => some x

/-- The sum of two numbers. -/
def add (x y : Binary64) : Binary64 :=
  match x.fraction?, y.fraction? with
  | some (n, d), some (m, e) =>
    ofFraction (x.isNegative && y.isNegative && x.isZero && y.isZero) (n * e + m * d) (d * e)
  | some _, none => y
  | none, some _ => x
  | none, none => if x = y then x else .nan

/-- The difference of two numbers. -/
def sub (x y : Binary64) : Binary64 := x.add y.negate

/-- The product of two numbers. -/
def mul (x y : Binary64) : Binary64 :=
  let negative := x.isNegative != y.isNegative
  match x.fraction?, y.fraction? with
  | some (n, d), some (m, e) => ofFraction negative (n * m) (d * e)
  | _, _ => if x = .nan ∨ y = .nan ∨ x.isZero ∨ y.isZero then .nan else .infinite negative

end Binary64

end Marginalia
