import BracketQuery.Arithmetic

/-!
What can be wrong with a JSON text, and where. A reader that stops remembers how many bytes it has
left; line and column follow from that and the text.
-/

namespace BracketQuery.Json

/-- What a JSON text was found to be lacking. -/
inductive Cause where
  | endInValue
  | endInObject
  | endInArray
  | endInString
  | expectedValue
  | expectedLiteral
  | expectedColon
  | expectedObjectSeparator
  | expectedArraySeparator
  | trailingComma
  | trailingCharacters
  | keyNotString
  | invalidNumber
  | numberOutOfRange
  | invalidEscape
  | unfinishedSurrogatePair
  | loneSurrogate
  | controlCharacter
  | tooDeep
  | invalidType (found expected : String)
  | invalidValue (found expected : String)
  | invalidLength (length : Nat) (expected : String)
  | unknownVariant (name expected : String)
  | duplicateField (name : String)
  | invalidShape (reason : String)
  deriving DecidableEq, Repr

/-- The wording of a cause. -/
def Cause.message : Cause → String
  | endInValue => "EOF while parsing a value"
  | endInObject => "EOF while parsing an object"
  | endInArray => "EOF while parsing a list"
  | endInString => "EOF while parsing a string"
  | expectedValue => "expected value"
  | expectedLiteral => "expected ident"
  | expectedColon => "expected `:`"
  | expectedObjectSeparator => "expected `,` or `\x7d`"
  | expectedArraySeparator => "expected `,` or `]`"
  | trailingComma => "trailing comma"
  | trailingCharacters => "trailing characters"
  | keyNotString => "key must be a string"
  | invalidNumber => "invalid number"
  | numberOutOfRange => "number out of range"
  | invalidEscape => "invalid escape"
  | unfinishedSurrogatePair => "unexpected end of hex escape"
  | loneSurrogate => "lone leading surrogate in hex escape"
  | controlCharacter => "control character (\\u0000-\\u001F) found while parsing a string"
  | tooDeep => "recursion limit exceeded"
  | invalidType found expected => "invalid type: " ++ found ++ ", expected " ++ expected
  | invalidValue found expected => "invalid value: " ++ found ++ ", expected " ++ expected
  | invalidLength length expected =>
    "invalid length " ++ toString length ++ ", expected " ++ expected
  | unknownVariant name expected => "unknown variant `" ++ name ++ "`, expected " ++ expected
  | duplicateField name => "duplicate field `" ++ name ++ "`"
  | invalidShape reason => reason

/-- Why reading stopped, and how many bytes were left then. A document that can be read but has a
wrong shape is refused without a place. -/
structure Fault where
  cause : Cause
  left : Option Nat
  deriving DecidableEq, Repr

/-- The number of bytes of a text. -/
def byteLength (text : List Char) : Nat := (text.map fun c => c.utf8Size).sum

/-- Line and column after so many bytes of a text: the line counts from one, the column is the
number of bytes since the last line break. -/
def place : (bytes line column : Nat) → List Char → Nat × Nat
  | _, line, column, [] => (line, column)
  | bytes, line, column, c :: rest =>
    if bytes < c.utf8Size then (line, column + bytes)
    else if c = '\n' then place (bytes - 1) (line + 1) 0 rest
    else place (bytes - c.utf8Size) line (column + c.utf8Size) rest

/-- Why a text was refused, and the line and column of it that show the reason. -/
structure Refusal where
  cause : Cause
  place : Option (Nat × Nat)
  deriving DecidableEq, Repr

/-- A fault of a reader of `text`, by line and column. -/
def Fault.locate (text : List Char) (fault : Fault) : Refusal :=
  ⟨fault.cause, fault.left.map fun left => place (byteLength text - left) 1 0 text⟩

/-- The wording of a refusal. -/
def Refusal.message (refusal : Refusal) : String :=
  match refusal.place with
  | none => refusal.cause.message
  | some (line, column) =>
    refusal.cause.message ++ " at line " ++ toString line ++ " column " ++ toString column

/-- Stop with the given rest of the text ahead. -/
def stop {α : Type} (cause : Cause) (rest : List Char) : Except Fault α :=
  .error ⟨cause, some (byteLength rest)⟩

/-- Stop at the first byte of the given rest, which has been looked at and counts as read. -/
def stopAt {α : Type} (cause : Cause) (rest : List Char) : Except Fault α :=
  .error ⟨cause, some (byteLength rest - 1)⟩

end BracketQuery.Json
