import BracketQuery.Binary64.Rounding

/-!
Multiplication and division of doubles, and scaling by powers of ten. Scaling rounds the power of
ten and then the product, so the result may differ in its last place from the double nearest to the
scaled number.
-/

namespace BracketQuery.Binary64

/-- The rounded product of finite doubles. -/
def mul (x y : Binary64) : Binary64 :=
  ofUnits (x.negative != y.negative) (x.magnitude * y.magnitude) unitsPerOne

/-- The rounded quotient of finite doubles, of which the second is not zero. -/
def div (x y : Binary64) : Binary64 :=
  ofRatio (x.negative != y.negative) x.magnitude y.magnitude

/-- The double nearest to a power of ten. -/
def tenPow (exponent : Nat) : Binary64 := ofRatio false (10 ^ exponent) 1

/-- The greatest power of ten that is a double. -/
def greatestTenPow : Nat := 308

/-- A double divided by `10 ^ exponent`, in steps of the greatest power of ten while the exponent
exceeds it. -/
def scaleDown (x : Binary64) (exponent : Nat) : Binary64 :=
  if exponent ≤ greatestTenPow then x.div (tenPow exponent)
  else if x.isZero then x
  else scaleDown (x.div (tenPow greatestTenPow)) (exponent - greatestTenPow)
termination_by exponent
decreasing_by have : 0 < greatestTenPow := by decide
              omega

/-- A double multiplied by `10 ^ exponent`, if that is in range. -/
def scaleUp? (x : Binary64) (exponent : Nat) : Option Binary64 :=
  if exponent ≤ greatestTenPow then
    let scaled := x.mul (tenPow exponent)
    if scaled.isFinite then some scaled else none
  else if x.isZero then some x
  else none

/-- The double that `coefficient * 10 ^ exponent` is scaled to, with the given sign, if it is in
range. -/
def ofScaled? (negative : Bool) (coefficient : Nat) (exponent : Int) : Option Binary64 :=
  let x := ofRatio negative coefficient 1
  if 0 ≤ exponent then x.scaleUp? exponent.toNat else some (x.scaleDown (-exponent).toNat)

end BracketQuery.Binary64
