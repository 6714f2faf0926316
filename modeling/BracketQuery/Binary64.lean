import BracketQuery.Arithmetic

/-!
Double-precision numbers as bit patterns. A finite number is a whole multiple of the smallest
positive one, `2 ^ -1074`, so its exact value is a sign and a natural number of such units; all
arithmetic on values is exact arithmetic on that number.
-/

namespace BracketQuery

/-- A double-precision number, held as its 64 bits. -/
structure Binary64 where
  bits : UInt64
  deriving DecidableEq, Repr

namespace Binary64

/-- The sign bit: negative numbers and negative zero have it. -/
def negative (x : Binary64) : Bool := x.bits.toNat / 2 ^ 63 == 1

/-- The eleven exponent bits. -/
def exponentField (x : Binary64) : Nat := x.bits.toNat / 2 ^ 52 % 2 ^ 11

/-- The fifty-two fraction bits. -/
def fractionField (x : Binary64) : Nat := x.bits.toNat % 2 ^ 52

/-- Neither an infinity nor a NaN. -/
def isFinite (x : Binary64) : Bool := x.exponentField != 2047

def isNaN (x : Binary64) : Bool := x.exponentField == 2047 && x.fractionField != 0

def isInfinite (x : Binary64) : Bool := x.exponentField == 2047 && x.fractionField == 0

/-- The significand of a finite number, with the implicit leading bit of normal numbers. -/
def significand (x : Binary64) : Nat :=
  if x.exponentField = 0 then x.fractionField else 2 ^ 52 + x.fractionField

/-- The power of two that one step of the significand is worth, in units of `2 ^ -1074`. -/
def step (x : Binary64) : Nat := 2 ^ (x.exponentField - 1)

/-- The absolute value of a finite number in units of `2 ^ -1074`. -/
def magnitude (x : Binary64) : Nat := x.significand * x.step

/-- How many units make one. -/
def unitsPerOne : Nat := 2 ^ 1074

/-- The numbers of either sign from the sixty-three bits below the sign. -/
def ofFields (negative : Bool) (rest : Nat) : Binary64 :=
  ⟨UInt64.ofNat ((if negative then 2 ^ 63 else 0) + rest)⟩

def zero (negative : Bool) : Binary64 := ofFields negative 0

def infinity (negative : Bool) : Binary64 := ofFields negative (2047 * 2 ^ 52)

def nan : Binary64 := ofFields false (2047 * 2 ^ 52 + 2 ^ 51)

/-- Zero of either sign. -/
def isZero (x : Binary64) : Bool := x.exponentField == 0 && x.fractionField == 0

/-- The integer that a finite number is, if it is one. -/
def toInt? (x : Binary64) : Option Int :=
  if x.isFinite && x.magnitude % unitsPerOne == 0 then
    let absolute : Int := (x.magnitude / unitsPerOne : Nat)
    some (if x.negative then -absolute else absolute)
  else none

end Binary64

end BracketQuery
