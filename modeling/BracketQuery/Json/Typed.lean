import BracketQuery.Integer
import BracketQuery.Json.Reader
import BracketQuery.Json.Writer
import BracketQuery.Text.Quoted

/-!
Strict reading of values of a known type. A value of another type is refused with what was found and
what was expected; members with unknown names are passed over.
-/

namespace BracketQuery.Json

/-- Refuse a value of another type than the expected one. Scalars are read before they are refused;
containers are refused at their bracket. -/
def refuseType {α : Type} (expected : String) (text : List Char) : Reading α :=
  let refuse (found : String) (rest : List Char) : Reading α :=
    stop (.invalidType found expected) rest
  match text with
  | 'n' :: rest => (readLiteral ['u', 'l', 'l'] rest).bind (refuse "null")
  | 't' :: rest => (readLiteral ['r', 'u', 'e'] rest).bind (refuse "boolean `true`")
  | 'f' :: rest => (readLiteral ['a', 'l', 's', 'e'] rest).bind (refuse "boolean `false`")
  | '"' :: rest => (readString rest).bind fun (chars, rest) =>
    refuse ("string " ++ Text.quoted (String.ofList chars)) rest
  | '[' :: rest => refuse "sequence" ('[' :: rest)
  | '\x7b' :: rest => refuse "map" ('\x7b' :: rest)
  | c :: rest =>
    if c = '-' ∨ c.isDigit then
      (readNumber (c :: rest)).bind fun (n, rest) =>
        match n with
        | .integer n => refuse ("integer `" ++ toString n ++ "`") rest
        | .float x => refuse ("floating point `" ++ x.jsonText ++ "`") rest
    else stopAt .expectedValue (c :: rest)
  | [] => stop .endInValue []

/-- A string. -/
def readText (expected : String) (text : List Char) : Reading String :=
  match skipSpace text with
  | [] => stop .endInValue []
  | '"' :: rest => (readString rest).map fun (chars, rest) => (String.ofList chars, rest)
  | text => refuseType expected text

/-- A truth value. -/
def readBoolean (text : List Char) : Reading Bool :=
  match skipSpace text with
  | [] => stop .endInValue []
  | 't' :: rest => (readLiteral ['r', 'u', 'e'] rest).map fun rest => (true, rest)
  | 'f' :: rest => (readLiteral ['a', 'l', 's', 'e'] rest).map fun rest => (false, rest)
  | text => refuseType "a boolean" text

/-- A 64-bit integer. -/
def readInt64 (text : List Char) : Reading Int64 :=
  let expected := "i64"
  match skipSpace text with
  | [] => stop .endInValue []
  | c :: rest =>
    if c = '-' ∨ c.isDigit then
      (readNumber (c :: rest)).bind fun (n, rest) =>
        match n with
        | .integer n =>
          match Integer.toInt64? n with
          | some n => .ok (n, rest)
          | none => stop (.invalidValue ("integer `" ++ toString n ++ "`") expected) rest
        | .float x => stop (.invalidType ("floating point `" ++ x.jsonText ++ "`") expected) rest
    else refuseType expected (c :: rest)

/-- A value that may be null. -/
def readOptional {α : Type} (read : List Char → Reading α) (text : List Char) :
    Reading (Option α) :=
  match skipSpace text with
  | 'n' :: rest => (readLiteral ['u', 'l', 'l'] rest).map fun rest => (none, rest)
  | text => (read text).map fun (value, rest) => (some value, rest)

/-- The null value. -/
def readUnit (text : List Char) : Reading Unit :=
  match skipSpace text with
  | [] => stop .endInValue []
  | 'n' :: rest => (readLiteral ['u', 'l', 'l'] rest).map fun rest => ((), rest)
  | text => refuseType "unit" text

/-- The elements of an array and its closing bracket. -/
def readItems {α : Type} (item : List Char → Reading α) :
    Nat → Bool → List Char → Except Fault (List α × List Char)
  | 0, _, text => stop .endInArray text
  | fuel + 1, first, text => do
    match ← nextElement first text with
    | none => pure ([], ← readArrayEnd text)
    | some text =>
      let (head, text) ← item text
      let (tail, text) ← readItems item fuel false text
      pure (head :: tail, text)

/-- An array of values of one type. -/
def readArray {α : Type} (item : List Char → Reading α) (text : List Char) : Reading (List α) :=
  match skipSpace text with
  | [] => stop .endInValue []
  | '[' :: rest => readItems item (rest.length + 1) true rest
  | text => refuseType "a sequence" text

/-- A string that is passed over. Its escapes need not make sense beyond their digits. -/
def skipString : List Char → Except Fault (List Char)
  | [] => stop .endInString []
  | '"' :: rest => .ok rest
  | '\\' :: text =>
    match text with
    | [] => stop .endInString []
    | 'u' :: a :: b :: c :: d :: rest =>
      match Text.hexNumber? [a, b, c, d] with
      | none => stopInHex (a :: b :: c :: d :: rest)
      | some _ => skipString rest
    | 'u' :: rest => stopInHex rest
    | c :: rest =>
      match simpleEscape? c with
      | some _ => skipString rest
      | none => stopAt .invalidEscape (c :: rest)
  | c :: rest => if c.toNat < 32 then stop .controlCharacter rest else skipString rest

/-- Decimal digits, of which there is at least one. -/
def skipDigits (text : List Char) : Except Fault (List Char) :=
  match text with
  | [] => stop .invalidNumber []
  | c :: _ => if c.isDigit then .ok (text.dropWhile Char.isDigit) else stopAt .invalidNumber text

/-- The exponent of a number that is passed over, if it has one. -/
def skipExponent : List Char → Except Fault (List Char)
  | 'e' :: '+' :: rest | 'e' :: '-' :: rest | 'E' :: '+' :: rest | 'E' :: '-' :: rest
  | 'e' :: rest | 'E' :: rest => skipDigits rest
  | text => .ok text

/-- A number that is passed over, after its sign. Its size does not matter. -/
def skipUnsigned (text : List Char) : Except Fault (List Char) := do
  let text ← match text with
    | '0' :: c :: rest => if c.isDigit then stopAt .invalidNumber (c :: rest) else .ok (c :: rest)
    | '0' :: rest => .ok rest
    | _ => skipDigits text
  match text with
  | '.' :: rest => skipExponent (← skipDigits rest)
  | _ => skipExponent text

mutual

/-- A value that is passed over, however deep. -/
def skipValue : Nat → List Char → Except Fault (List Char)
  | 0, text => stop .endInValue text
  | fuel + 1, text =>
    match skipSpace text with
    | [] => stop .endInValue []
    | 'n' :: rest => readLiteral ['u', 'l', 'l'] rest
    | 't' :: rest => readLiteral ['r', 'u', 'e'] rest
    | 'f' :: rest => readLiteral ['a', 'l', 's', 'e'] rest
    | '"' :: rest => skipString rest
    | '-' :: rest => skipUnsigned rest
    | '[' :: rest =>
      match skipSpace rest with
      | ']' :: rest => .ok rest
      | [] => stop .endInArray []
      | rest => skipElements fuel rest
    | '\x7b' :: rest =>
      match skipSpace rest with
      | '\x7d' :: rest => .ok rest
      | [] => stop .endInObject []
      | rest => skipMembers fuel rest
    | c :: rest => if c.isDigit then skipUnsigned (c :: rest) else stopAt .expectedValue (c :: rest)

/-- The elements of an array that is passed over, and its closing bracket. -/
def skipElements : Nat → List Char → Except Fault (List Char)
  | 0, text => stop .endInArray text
  | fuel + 1, text => do
    match skipSpace (← skipValue fuel text) with
    | [] => stop .endInArray []
    | ',' :: rest => skipElements fuel rest
    | ']' :: rest => .ok rest
    | rest => stopAt .expectedArraySeparator rest

/-- The members of an object that is passed over, and its closing brace. -/
def skipMembers : Nat → List Char → Except Fault (List Char)
  | 0, text => stop .endInObject text
  | fuel + 1, text => do
    match skipSpace text with
    | [] => stop .endInObject []
    | '"' :: rest =>
      let rest ← readColon (← skipString rest)
      match skipSpace (← skipValue fuel rest) with
      | [] => stop .endInObject []
      | ',' :: rest => skipMembers fuel rest
      | '\x7d' :: rest => .ok rest
      | rest => stopAt .expectedObjectSeparator rest
    | rest => stopAt .keyNotString rest

end

/-- The rest of the text after the end of an object, if that is what comes next. -/
def pastObjectEnd (text : List Char) : List Char :=
  match skipSpace text with
  | '\x7d' :: rest => rest
  | rest => rest

/-- The rest of the text after the end of an array, if that is what comes next. -/
def pastArrayEnd (text : List Char) : List Char :=
  match skipSpace text with
  | ']' :: rest => rest
  | ',' :: rest => skipSpace rest
  | rest => rest

/-- A named part of a record: how its value is read and where it goes. -/
structure RecordField (σ : Type) where
  name : String
  read : σ → List Char → Reading σ

/-- The members of an object that holds a record, and its closing brace. -/
def readFields {σ : Type} (fields : List (RecordField σ)) :
    Nat → Bool → List String → σ → List Char → Except Fault (σ × List Char)
  | 0, _, _, _, text => stop .endInObject text
  | fuel + 1, first, seen, record, text => do
    match ← nextName first text with
    | none => pure (record, ← readObjectEnd text)
    | some text =>
      let (chars, text) ← readString text
      let name := String.ofList chars
      match fields.find? fun field => field.name == name with
      | none =>
        let text ← readColon text
        let text ← skipValue (2 * text.length + 2) text
        readFields fields fuel false seen record text
      | some field =>
        if name ∈ seen then stop (.duplicateField name) (pastObjectEnd text)
        else
          let (record, text) ← field.read record (← readColon text)
          readFields fields fuel false (name :: seen) record text

/-- The elements of an array that holds a record by position; where it ends early, `missing` says
what becomes of the record, given the number of elements and the rest of the text. -/
def readPositions {σ : Type} (missing : Nat → List Char → σ → Reading σ) :
    Nat → List (RecordField σ) → σ → List Char → Except Fault (σ × List Char)
  | _, [], record, text => do pure (record, ← readArrayEnd text)
  | i, field :: fields, record, text => do
    match ← nextElement (i == 0) text with
    | none => missing i text record
    | some text =>
      let (record, text) ← field.read record text
      readPositions missing (i + 1) fields record text

/-- A record, as an object or as an array. -/
def readRecord {σ : Type} (expected : String) (fields : List (RecordField σ))
    (missing : Nat → List Char → σ → Reading σ) (start : σ) (text : List Char) : Reading σ :=
  match skipSpace text with
  | [] => stop .endInValue []
  | '[' :: rest => readPositions missing 0 fields start rest
  | '\x7b' :: rest => readFields fields (rest.length + 1) true [] start rest
  | text => refuseType expected text

end BracketQuery.Json
