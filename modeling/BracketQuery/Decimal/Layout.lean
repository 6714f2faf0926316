import BracketQuery.Binary64.Shortest

/-!
How a decimal is written. `positional` never uses an exponent, whatever the size of the number;
`scientific` writes one digit before the point and a signed exponent.
-/

namespace BracketQuery.Decimal

/-- The digits of the coefficient, most significant first. -/
def digits (d : Decimal) : List Char := Nat.toDigits 10 d.coefficient

/-- The exponent of the leading digit. -/
def leadingExponent (d : Decimal) : Int := d.exponent + d.digits.length - 1

/-- All digits in place, with `point` standing for the fraction of an integer. -/
def positional (point : List Char) (d : Decimal) : List Char :=
  if 0 ≤ d.exponent then d.digits ++ List.replicate d.exponent.toNat '0' ++ point
  else
    let places := (-d.exponent).toNat
    let length := d.digits.length
    if places < length then
      d.digits.take (length - places) ++ '.' :: d.digits.drop (length - places)
    else '0' :: '.' :: List.replicate (places - length) '0' ++ d.digits

/-- One digit, the others after a point, and the exponent with its sign when it is not negative. -/
def scientific (d : Decimal) : List Char :=
  let exponent := d.leadingExponent
  let head := match d.digits with
    | [] => []
    | [digit] => [digit]
    | digit :: rest => digit :: '.' :: rest
  head ++ 'e' :: (if 0 ≤ exponent then ['+'] else ['-']) ++ Nat.toDigits 10 exponent.natAbs

end BracketQuery.Decimal
