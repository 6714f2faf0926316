import BracketQuery.Binary64.Rounding
import BracketQuery.Text.Digits

/-!
Decimal numerals: an optional sign, digits with at most one point among or around them, and an
optional exponent. A numeral stands for the double nearest to it.
-/

namespace BracketQuery.Decimal

/-- A sign in front of a numeral, whether it is a minus, and what follows it. -/
def splitSign : List Char → Bool × List Char
  | '-' :: rest => (true, rest)
  | '+' :: rest => (false, rest)
  | text => (false, text)

/-- The exponent at the end of a numeral; its absence counts as zero. -/
def exponent? : List Char → Option Int
  | [] => some 0
  | mark :: text =>
    let (down, digits) := splitSign text
    if (mark == 'e' || mark == 'E') && !digits.isEmpty && digits.all Char.isDigit then
      some (if down then -(Text.decimalNumber digits : Int) else Text.decimalNumber digits)
    else none

/-- The double nearest to the number that a numeral without a sign writes. -/
def readUnsigned? (negative : Bool) (text : List Char) : Option Binary64 :=
  let whole := text.takeWhile Char.isDigit
  let rest := text.dropWhile Char.isDigit
  let afterPoint := match rest with
    | '.' :: rest => rest
    | _ => []
  let fraction := afterPoint.takeWhile Char.isDigit
  let tail := match rest with
    | '.' :: rest => rest.dropWhile Char.isDigit
    | rest => rest
  if whole.isEmpty && fraction.isEmpty then none
  else (exponent? tail).map fun exponent =>
    Binary64.ofDecimal negative (Text.decimalNumber (whole ++ fraction))
      (exponent - fraction.length)

/-- The double nearest to the number that a numeral writes. -/
def read? (text : List Char) : Option Binary64 :=
  let (negative, rest) := splitSign text
  readUnsigned? negative rest

end BracketQuery.Decimal
