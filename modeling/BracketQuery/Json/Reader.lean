import BracketQuery.Json.Basic
import BracketQuery.Json.Fault
import BracketQuery.Text.Digits

/-!
Reading JSON text. Each reader takes the rest of the text and gives a result with what is left, or
the fault at which it stopped. Nesting is limited to 127 containers, and `readValue` recurses on the
levels that remain; the loop over the items of one container is bounded by the length of the text.
-/

namespace BracketQuery.Json

/-- The outcome of reading something from the front of a text. -/
abbrev Reading (α : Type) := Except Fault (α × List Char)

/-- The four characters that may stand between tokens. -/
def isSpace (c : Char) : Bool := c == ' ' || c == '\n' || c == '\t' || c == '\r'

def skipSpace (text : List Char) : List Char := text.dropWhile isSpace

/-- The fault of an escape whose four bytes are not hexadecimal digits, or not there. -/
def stopInHex {α : Type} (text : List Char) : Except Fault α :=
  if byteLength text < 4 then stop .endInString []
  else .error ⟨.invalidEscape, some (byteLength text - 4)⟩

/-- The character that a one-letter escape stands for. -/
def simpleEscape? : Char → Option Char
  | '"' => some '"'
  | '\\' => some '\\'
  | '/' => some '/'
  | 'b' => some '\x08'
  | 'f' => some '\x0c'
  | 'n' => some '\n'
  | 'r' => some '\r'
  | 't' => some '\t'
  | _ => none

/-- A character in front of a string that has been read. -/
def consChar (c : Char) (string : Reading (List Char)) : Reading (List Char) :=
  string.map fun (chars, rest) => (c :: chars, rest)

/-- The rest of a string after its opening quotation mark. A character beyond the first plane may be
written as two escapes, a leading and a trailing surrogate; neither may stand alone. -/
def readString : List Char → Reading (List Char)
  | [] => stop .endInString []
  | '"' :: rest => .ok ([], rest)
  | '\\' :: text =>
    match text with
    | [] => stop .endInString []
    | 'u' :: a :: b :: c :: d :: rest =>
      match Text.hexNumber? [a, b, c, d] with
      | none => stopInHex (a :: b :: c :: d :: rest)
      | some unit =>
        if 0xDC00 ≤ unit ∧ unit ≤ 0xDFFF then stop .loneSurrogate rest
        else if unit < 0xD800 ∨ 0xDFFF < unit then consChar (Char.ofNat unit) (readString rest)
        else match rest with
          | '\\' :: 'u' :: e :: f :: g :: h :: rest =>
            match Text.hexNumber? [e, f, g, h] with
            | none => stopInHex (e :: f :: g :: h :: rest)
            | some trail =>
              if 0xDC00 ≤ trail ∧ trail ≤ 0xDFFF then
                let point := (unit - 0xD800) * 0x400 + (trail - 0xDC00) + 0x10000
                consChar (Char.ofNat point) (readString rest)
              else stop .loneSurrogate rest
          | '\\' :: 'u' :: rest => stopInHex rest
          | [] | ['\\'] => stop .endInString []
          | '\\' :: rest => stopAt .unfinishedSurrogatePair rest
          | rest => stopAt .unfinishedSurrogatePair rest
    | 'u' :: rest => stopInHex rest
    | c :: rest =>
      match simpleEscape? c with
      | some c => consChar c (readString rest)
      | none => stopAt .invalidEscape (c :: rest)
  | c :: rest =>
    if c.toNat < 32 then stop .controlCharacter rest else consChar c (readString rest)

/-- Where the digits of an exponent exceed `2 ^ 31 - 1`: the digits after the one that does it. -/
def exponentOverflow? (value : Nat) : List Char → Option (List Char)
  | [] => none
  | c :: rest =>
    let value := Text.pushDigit value c
    if 2 ^ 31 ≤ value then some rest else exponentOverflow? value rest

/-- The double with the given sign, coefficient and exponent, if it is in range. -/
def finishFloat (negative : Bool) (coefficient : Nat) (exponent : Int) (rest : List Char) :
    Reading Number :=
  match Binary64.ofScaled? negative coefficient exponent with
  | some value => .ok (.float value, rest)
  | none => stop .numberOutOfRange rest

/-- The rest of a number after the letter of its exponent, which is added to the exponent that the
digits before it have. -/
def readExponent (negative : Bool) (coefficient : Nat) (exponent : Int) (text : List Char) :
    Reading Number :=
  let (down, text) := match text with
    | '+' :: rest => (false, rest)
    | '-' :: rest => (true, rest)
    | _ => (false, text)
  let digits := text.takeWhile Char.isDigit
  let rest := text.dropWhile Char.isDigit
  match text with
  | [] => stop .endInValue []
  | c :: _ =>
    if !c.isDigit then stopAt .invalidNumber text
    else match exponentOverflow? 0 digits with
      | some unread =>
        if coefficient ≠ 0 ∧ !down then stop .numberOutOfRange (unread ++ rest)
        else .ok (.float (Binary64.zero negative), rest)
      | none =>
        let written : Int := Text.decimalNumber digits
        finishFloat negative coefficient (exponent + if down then -written else written) rest

/-- Take digits into a coefficient for as long as it fits 64 bits; the digits that are left count
for their places only. -/
def takeDigits (coefficient : Nat) : List Char → Nat × List Char
  | [] => (coefficient, [])
  | c :: rest =>
    let longer := Text.pushDigit coefficient c
    if longer < 2 ^ 64 then takeDigits longer rest else (coefficient, c :: rest)

/-- The rest of a number after the digits before its point, of which `places` have not been taken
into the coefficient. A number without point and exponent is an integer if it fits 64 bits, signed
or not; so a negative zero is a double. -/
def readAfterDigits (negative : Bool) (coefficient places : Nat) : List Char → Reading Number
  | '.' :: text =>
    let digits := text.takeWhile Char.isDigit
    let rest := text.dropWhile Char.isDigit
    let (coefficient, left) := takeDigits coefficient digits
    let exponent : Int := places - (digits.length - left.length)
    if digits.isEmpty then
      if text.isEmpty then stop .endInValue [] else stopAt .invalidNumber text
    else match rest with
      | 'e' :: rest | 'E' :: rest => readExponent negative coefficient exponent rest
      | _ => finishFloat negative coefficient exponent rest
  | 'e' :: rest | 'E' :: rest => readExponent negative coefficient places rest
  | rest =>
    if 0 < places then finishFloat negative coefficient places rest
    else if !negative then .ok (.integer coefficient, rest)
    else if 0 < coefficient ∧ coefficient ≤ 2 ^ 63 then .ok (.integer (-coefficient), rest)
    else finishFloat true coefficient 0 rest

/-- The rest of a number after its sign. No digit follows a leading zero. -/
def readUnsigned (negative : Bool) : List Char → Reading Number
  | [] => stop .endInValue []
  | '0' :: rest =>
    match rest with
    | c :: _ => if c.isDigit then stopAt .invalidNumber rest else readAfterDigits negative 0 0 rest
    | [] => readAfterDigits negative 0 0 rest
  | c :: rest =>
    if c.isDigit then
      let text := c :: rest
      let (coefficient, left) := takeDigits 0 (text.takeWhile Char.isDigit)
      readAfterDigits negative coefficient left.length (text.dropWhile Char.isDigit)
    else stopAt .invalidNumber (c :: rest)

/-- A number, from its sign or first digit. -/
def readNumber : List Char → Reading Number
  | '-' :: rest => readUnsigned true rest
  | text => readUnsigned false text

/-- The rest of a literal such as `true`. -/
def readLiteral : List Char → List Char → Except Fault (List Char)
  | [], rest => .ok rest
  | _ :: _, [] => stop .endInValue []
  | c :: literal, d :: rest =>
    if c = d then readLiteral literal rest else stopAt .expectedLiteral (d :: rest)

/-- Where the next element of an array starts, or `none` at the closing bracket. -/
def nextElement (first : Bool) (text : List Char) : Except Fault (Option (List Char)) :=
  match skipSpace text with
  | [] => stop .endInArray []
  | ']' :: _ => .ok none
  | c :: rest =>
    if first then .ok (some (c :: rest))
    else if c = ',' then
      match skipSpace rest with
      | [] => stop .endInValue []
      | ']' :: rest => stopAt .trailingComma (']' :: rest)
      | rest => .ok (some rest)
    else stopAt .expectedArraySeparator (c :: rest)

/-- Where the next member name of an object starts, after its quotation mark, or `none` at the
closing brace. -/
def nextName (first : Bool) (text : List Char) : Except Fault (Option (List Char)) :=
  match skipSpace text with
  | [] => stop .endInObject []
  | '\x7d' :: _ => .ok none
  | c :: rest =>
    if first then
      if c = '"' then .ok (some rest) else stopAt .keyNotString (c :: rest)
    else if c = ',' then
      match skipSpace rest with
      | [] => stop .endInValue []
      | '"' :: rest => .ok (some rest)
      | '\x7d' :: rest => stopAt .trailingComma ('\x7d' :: rest)
      | rest => stopAt .keyNotString rest
    else stopAt .expectedObjectSeparator (c :: rest)

/-- The colon after a member name. -/
def readColon (text : List Char) : Except Fault (List Char) :=
  match skipSpace text with
  | [] => stop .endInObject []
  | ':' :: rest => .ok rest
  | rest => stopAt .expectedColon rest

/-- The end of an array all of whose elements have been read. -/
def readArrayEnd (text : List Char) : Except Fault (List Char) :=
  match skipSpace text with
  | [] => stop .endInArray []
  | ']' :: rest => .ok rest
  | ',' :: rest =>
    match skipSpace rest with
    | ']' :: rest => stopAt .trailingComma (']' :: rest)
    | rest => stopAt .trailingCharacters rest
  | rest => stopAt .trailingCharacters rest

/-- The end of an object all of whose members have been read. -/
def readObjectEnd (text : List Char) : Except Fault (List Char) :=
  match skipSpace text with
  | [] => stop .endInObject []
  | '\x7d' :: rest => .ok rest
  | ',' :: rest => stopAt .trailingComma (',' :: rest)
  | rest => stopAt .trailingCharacters rest

/-- The elements of an array and its closing bracket. -/
def readElements (item : List Char → Reading Json) :
    Nat → Bool → List Char → Except Fault (List Json × List Char)
  | 0, _, text => stop .endInArray text
  | fuel + 1, first, text => do
    match ← nextElement first text with
    | none => pure ([], ← readArrayEnd text)
    | some text =>
      let (head, text) ← item text
      let (tail, text) ← readElements item fuel false text
      pure (head :: tail, text)

/-- The members of an object and its closing brace. -/
def readMembers (item : List Char → Reading Json) :
    Nat → Bool → List Char → Except Fault (List (String × Json) × List Char)
  | 0, _, text => stop .endInObject text
  | fuel + 1, first, text => do
    match ← nextName first text with
    | none => pure ([], ← readObjectEnd text)
    | some text =>
      let (name, text) ← readString text
      let text ← readColon text
      let (head, text) ← item text
      let (tail, text) ← readMembers item fuel false text
      pure ((String.ofList name, head) :: tail, text)

/-- A value whose containers, if it is one, are read by `container`, which is given the text from
the bracket on. -/
def readScalarOr (container : List Char → Reading Json) (text : List Char) : Reading Json :=
  match skipSpace text with
  | [] => stop .endInValue []
  | 'n' :: rest => (readLiteral ['u', 'l', 'l'] rest).map fun rest => (.null, rest)
  | 't' :: rest => (readLiteral ['r', 'u', 'e'] rest).map fun rest => (.boolean true, rest)
  | 'f' :: rest => (readLiteral ['a', 'l', 's', 'e'] rest).map fun rest => (.boolean false, rest)
  | '"' :: rest => (readString rest).map fun (chars, rest) => (.string (String.ofList chars), rest)
  | c :: rest =>
    if c = '[' ∨ c = '\x7b' then container (c :: rest)
    else if c = '-' ∨ c.isDigit then
      (readNumber (c :: rest)).map fun (n, rest) => (.number n, rest)
    else stopAt .expectedValue (c :: rest)

/-- A value nested in no more than `levels` further containers. -/
def readValue : (levels : Nat) → List Char → Reading Json
  | 0 => readScalarOr (stopAt .tooDeep)
  | levels + 1 => readScalarOr fun text =>
    let inside := text.drop 1
    if text.head? = some '[' then
      (readElements (readValue levels) (inside.length + 1) true inside).map fun (elements, rest) =>
        (.array elements, rest)
    else
      (readMembers (readValue levels) (inside.length + 1) true inside).map fun (members, rest) =>
        (.object (ofMembers members), rest)

/-- The greatest number of containers around a value. -/
def maxDepth : Nat := 127

/-- The end of a text, after which only space may follow. -/
def readEnd (text : List Char) : Except Fault Unit :=
  match skipSpace text with
  | [] => .ok ()
  | rest => stopAt .trailingCharacters rest

/-- What a whole text holds, by a reader of its front. -/
def readAll {α : Type} (read : List Char → Reading α) (text : String) : Except Refusal α :=
  let chars := text.toList
  match read chars with
  | .error fault => .error (fault.locate chars)
  | .ok (value, rest) =>
    match readEnd rest with
    | .error fault => .error (fault.locate chars)
    | .ok () => .ok value

/-- The document that a text holds. -/
def parse (text : String) : Except Refusal Json := readAll (readValue maxDepth) text

end BracketQuery.Json
