import BracketQuery.Decimal.Reader
import BracketQuery.Text.Digits
import BracketQuery.Toml.Scan

/-!
Integers, in four bases, and floating-point numbers. Single underscores may stand between digits,
and a decimal integer has no leading zero.
-/

namespace BracketQuery.Toml

/-- Digits behind a digit, without the underscores between them. -/
def readMoreDigits (isDigit : Char → Bool) : List Char → Reading (List Char)
  | '_' :: c :: rest =>
    if isDigit c then
      (readMoreDigits isDigit rest).map fun (digits, rest) => (c :: digits, rest)
    else refuse (c :: rest)
  | ['_'] => refuse []
  | c :: rest =>
    if isDigit c then
      (readMoreDigits isDigit rest).map fun (digits, rest) => (c :: digits, rest)
    else .ok ([], c :: rest)
  | [] => .ok ([], [])

/-- At least one digit. -/
def readDigits (isDigit : Char → Bool) : List Char → Reading (List Char)
  | c :: rest =>
    if isDigit c then
      (readMoreDigits isDigit rest).map fun (digits, rest) => (c :: digits, rest)
    else miss (c :: rest)
  | [] => miss []

/-- The sign and the digits of a decimal integer. -/
def readDecimal (text : List Char) : Reading (Bool × List Char) :=
  let (negative, unsigned) := Decimal.splitSign text
  match unsigned with
  | '0' :: rest => .ok ((negative, ['0']), rest)
  | _ => (readDigits Char.isDigit unsigned).map fun (digits, rest) => ((negative, digits), rest)

/-- An integer of 64 bits. -/
def readInteger (text : List Char) : Reading Int :=
  let inBase (base : Nat) (isDigit : Char → Bool) (digits : List Char) : Reading Int :=
    (commit (readDigits isDigit digits)).bind fun (digits, rest) =>
      let value := digits.foldl (fun n c => base * n + (Text.hexValue? c).getD 0) 0
      if value < 2 ^ 63 then .ok (value, rest) else refuse text
  match text with
  | '0' :: 'x' :: digits => inBase 16 Text.isHexDigit digits
  | '0' :: 'o' :: digits => inBase 8 (fun c => '0' ≤ c ∧ c ≤ '7') digits
  | '0' :: 'b' :: digits => inBase 2 (fun c => c == '0' || c == '1') digits
  | _ =>
    (readDecimal text).bind fun ((negative, digits), rest) =>
      let value : Int := Text.decimalNumber digits
      let value := if negative then -value else value
      if -(2 ^ 63) ≤ value ∧ value < 2 ^ 63 then .ok (value, rest) else refuse text

/-- The exponent of a number behind its letter. -/
def readExponent (text : List Char) : Reading Int :=
  let (down, digits) := Decimal.splitSign text
  (commit (readDigits Char.isDigit digits)).map fun (digits, rest) =>
    (if down then -(Text.decimalNumber digits : Int) else Text.decimalNumber digits, rest)

/-- The exponent of a number, if there is one. -/
def readOptionalExponent : List Char → Reading Int
  | 'e' :: rest | 'E' :: rest => readExponent rest
  | text => .ok (0, text)

/-- A number with a fraction or an exponent. -/
def readFinite (text : List Char) : Reading Binary64 :=
  (readDecimal text).bind fun ((negative, whole), rest) =>
    let finish (fraction : List Char) (exponent : Reading Int) : Reading Binary64 :=
      exponent.bind fun (exponent, rest) =>
        let value := Binary64.ofDecimal negative (Text.decimalNumber (whole ++ fraction))
          (exponent - fraction.length)
        if value.isInfinite && !negative then refuse text else .ok (value, rest)
    match rest with
    | 'e' :: rest | 'E' :: rest => finish [] (readExponent rest)
    | '.' :: rest =>
      (commit (readDigits Char.isDigit rest)).bind fun (fraction, rest) =>
        finish fraction (readOptionalExponent rest)
    | _ => miss rest

/-- An infinity or the value that is no number. -/
def readSpecial (text : List Char) : Reading Binary64 :=
  let (negative, name) := Decimal.splitSign text
  match name with
  | 'i' :: 'n' :: 'f' :: rest => .ok (Binary64.infinity negative, rest)
  | 'n' :: 'a' :: 'n' :: rest => .ok (Binary64.nan, rest)
  | _ => miss name

/-- A floating-point number. -/
def readFloat : List Char → Reading Binary64 := orElse readFinite readSpecial

end BracketQuery.Toml
