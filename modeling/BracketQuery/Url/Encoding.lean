import BracketQuery.Percent
import BracketQuery.Text.Digits

/-!
Which characters each part of a URL holds as they are. All parts escape control characters and
everything beyond ASCII; an escape that is already there stays, for no part escapes a percent sign.
-/

namespace BracketQuery.Url

/-- The parts of a URL that differ in what they escape. -/
inductive Part where
  | opaquePath
  | fragment
  | query
  | specialQuery
  | path
  | userinfo
  deriving DecidableEq, Repr

/-- The printable ASCII characters that a part escapes. -/
def Part.escaped : Part → List Char
  | opaquePath => []
  | fragment => [' ', '"', '<', '>', '\x60']
  | query => [' ', '"', '#', '<', '>']
  | specialQuery => [' ', '"', '#', '<', '>', '\x27']
  | path => [' ', '"', '<', '>', '\x60', '#', '?', '\x7b', '\x7d']
  | userinfo =>
    [' ', '"', '<', '>', '\x60', '#', '?', '\x7b', '\x7d', '/', ':', ';', '=', '@', '[', '\\', ']',
      '^', '|']

/-- A character as a part writes it. -/
def Part.encodeChar (part : Part) (c : Char) : List Char :=
  if c.toNat < 32 ∨ 126 < c.toNat ∨ c ∈ part.escaped then
    (String.utf8EncodeChar c).flatMap Percent.escapeByte
  else [c]

/-- A text as a part writes it. -/
def Part.encode (part : Part) (text : List Char) : String :=
  String.ofList (text.flatMap part.encodeChar)

/-- The bytes that a text with escapes stands for. -/
def percentDecode : List Char → List UInt8
  | '%' :: a :: b :: rest =>
    match Text.hexValue? a, Text.hexValue? b with
    | some high, some low => UInt8.ofNat (16 * high + low) :: percentDecode rest
    | _, _ => String.utf8EncodeChar '%' ++ percentDecode (a :: b :: rest)
  | c :: rest => String.utf8EncodeChar c ++ percentDecode rest
  | [] => []

end BracketQuery.Url
