/-!
Percent encoding of the values of a query. A value is first escaped strictly, byte by byte of its
UTF-8 form, so that only letters, digits and `- . _ ~` stay; then the five marks `! ' ( ) *`, which
a component of a URL may hold as they are, are put back.
-/

namespace BracketQuery.Percent

/-- The bytes that strict escaping keeps. -/
def isUnreserved (byte : UInt8) : Bool :=
  let c := Char.ofNat byte.toNat
  c.isAlphanum || c == '-' || c == '.' || c == '_' || c == '~'

/-- The upper-case hexadecimal digit of a number below sixteen. -/
def hexDigit (n : Nat) : Char := if n < 10 then Char.ofNat (48 + n) else Char.ofNat (55 + n)

/-- A byte as `%` and two digits. -/
def escapeByte (byte : UInt8) : List Char :=
  ['%', hexDigit (byte.toNat / 16), hexDigit (byte.toNat % 16)]

/-- A byte as strict escaping writes it. -/
def encodeByte (byte : UInt8) : List Char :=
  if isUnreserved byte then [Char.ofNat byte.toNat] else escapeByte byte

/-- Strict escaping of a text. -/
def escape (text : List Char) : List Char :=
  (text.flatMap String.utf8EncodeChar).flatMap encodeByte

/-- The mark that an escape of two digits stands for, if it is one that stays. -/
def mark? : Char → Char → Option Char
  | '2', '1' => some '!'
  | '2', '7' => some '\x27'
  | '2', '8' => some '('
  | '2', '9' => some ')'
  | '2', 'A' => some '*'
  | _, _ => none

/-- Put back the marks in a strictly escaped text. -/
def restoreMarks : List Char → List Char
  | '%' :: a :: b :: rest =>
    match mark? a b with
    | some c => c :: restoreMarks rest
    | none => '%' :: a :: b :: restoreMarks rest
  | c :: rest => c :: restoreMarks rest
  | [] => []

/-- The form in which a value is sent. -/
def encode (value : String) : String := String.ofList (restoreMarks (escape value.toList))

end BracketQuery.Percent
