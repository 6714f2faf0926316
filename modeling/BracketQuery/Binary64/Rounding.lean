import BracketQuery.Binary64

/-!
Rounding of exact quotients and decimals to the nearest double, a tie going to the even
significand. Everything is computed over `Nat`: first the power of two that one step of the result
is worth, then the rounded quotient by that step.
-/

namespace BracketQuery.Binary64

/-- The quotient rounded to the nearest natural number, a tie going to the even one. -/
def roundDiv (num den : Nat) : Nat :=
  let quotient := num / den
  let twice := 2 * (num % den)
  if twice < den then quotient
  else if den < twice then quotient + 1
  else if quotient % 2 = 0 then quotient else quotient + 1

/-- The place of the leading bit of `num / den` for positive arguments: the greatest `k` with
`2 ^ k ≤ num / den`, for quotients of at least one. -/
def leadingBit (num den : Nat) : Nat :=
  let estimate := Nat.log2 num - Nat.log2 den
  if den * 2 ^ estimate ≤ num then estimate else estimate - 1

/-- The double nearest to `num / den` units of `2 ^ -1074`. A quotient of `2 ^ 53` or more is taken
in steps of a power of two that leave fifty-three bits; the carry of a significand that rounds up to
`2 ^ 53` runs into the exponent field, as it should. -/
def ofUnits (negative : Bool) (num den : Nat) : Binary64 :=
  let shift := leadingBit num den - 52
  let rest := shift * 2 ^ 52 + roundDiv num (den * 2 ^ shift)
  if rest < 2047 * 2 ^ 52 then ofFields negative rest else infinity negative

/-- The double nearest to `num / den`, with the given sign. -/
def ofRatio (negative : Bool) (num den : Nat) : Binary64 := ofUnits negative (num * unitsPerOne) den

/-- The double nearest to an integer. -/
def ofInt (n : Int) : Binary64 := ofRatio (n < 0) n.natAbs 1

/-- The double nearest to `coefficient * 10 ^ exponent`, with the given sign. Values far outside the
range of doubles are settled by their number of digits. -/
def ofDecimal (negative : Bool) (coefficient : Nat) (exponent : Int) : Binary64 :=
  let digits : Int := (Nat.toDigits 10 coefficient).length
  if coefficient = 0 then zero negative
  else if 400 < digits + exponent then infinity negative
  else if digits + exponent < -400 then zero negative
  else if 0 ≤ exponent then ofRatio negative (coefficient * 10 ^ exponent.toNat) 1
  else ofRatio negative coefficient (10 ^ (-exponent).toNat)

end BracketQuery.Binary64
