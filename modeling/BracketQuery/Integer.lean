import BracketQuery.Arithmetic
import BracketQuery.Text.Digits

/-!
Signed integers of 64 bits, and their decimal text.
-/

namespace BracketQuery.Integer

/-- An integer as a 64-bit one, if it is in range. -/
def toInt64? (n : Int) : Option Int64 :=
  if -2 ^ 63 ≤ n ∧ n < 2 ^ 63 then some (Int64.ofInt n) else none

/-- Decimal digits of an integer, with a sign only when it is negative. -/
def text (n : Int64) : String := toString n.toInt

/-- The number written by a non-empty list of decimal digits. -/
def ofDigits? (digits : List Char) : Option Nat :=
  if digits.isEmpty || !digits.all Char.isDigit then none
  else some (Text.decimalNumber digits)

/-- The 64-bit integer written by an optional sign and decimal digits. -/
def ofText? (text : List Char) : Option Int64 :=
  match text with
  | '-' :: digits => (ofDigits? digits).bind fun n => toInt64? (-n)
  | '+' :: digits => (ofDigits? digits).bind fun n => toInt64? n
  | digits => (ofDigits? digits).bind fun n => toInt64? n

end BracketQuery.Integer
