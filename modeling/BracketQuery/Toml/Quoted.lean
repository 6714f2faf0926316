import BracketQuery.Text.Digits
import BracketQuery.Toml.Scan

/-!
The four kinds of strings: in quotation marks with escapes, in apostrophes without, and either of
them over several lines between three marks.
-/

namespace BracketQuery.Toml

/-- A character that stands for itself in a string. -/
def isPlain (mark c : Char) : Bool := isPrintable c && c != mark

/-- A character in front of what has been read. -/
def consChar (c : Char) (string : Reading (List Char)) : Reading (List Char) :=
  string.map fun (chars, rest) => (c :: chars, rest)

/-- The character of so many hexadecimal digits. -/
def readCodePoint (digits : Nat) (text : List Char) : Except Fault (Char × Nat) :=
  let written := (text.take digits).takeWhile Text.isHexDigit
  match Text.hexNumber? written with
  | some point =>
    if written.length = digits ∧ point.isValidChar then .ok (Char.ofNat point, digits + 1)
    else refuse text
  | none => refuse text

/-- The character that an escape stands for and the number of characters after its backslash. -/
def readEscape : List Char → Except Fault (Char × Nat)
  | 'b' :: _ => .ok ('\x08', 1)
  | 'f' :: _ => .ok ('\x0c', 1)
  | 'n' :: _ => .ok ('\n', 1)
  | 'r' :: _ => .ok ('\r', 1)
  | 't' :: _ => .ok ('\t', 1)
  | '\\' :: _ => .ok ('\\', 1)
  | '"' :: _ => .ok ('"', 1)
  | 'u' :: rest => readCodePoint 4 rest
  | 'U' :: rest => readCodePoint 8 rest
  | c :: rest => if c.toNat < 128 then refuse rest else refuse (c :: rest)
  | [] => .error ⟨1, true⟩

/-- The rest of a string in quotation marks. The first argument counts the characters of an escape
that has been read. -/
def readBasic : Nat → List Char → Reading (List Char)
  | skip + 1, _ :: rest => readBasic skip rest
  | 0, '"' :: rest => .ok ([], rest)
  | 0, '\\' :: rest =>
    (readEscape rest).bind fun (c, length) => consChar c (readBasic length rest)
  | 0, c :: rest => if isPlain '"' c then consChar c (readBasic 0 rest) else refuse (c :: rest)
  | _, [] => refuse []

/-- The rest of a string in apostrophes. -/
def readLiteral : List Char → Reading (List Char)
  | '\x27' :: rest => .ok ([], rest)
  | c :: rest => if isPlain '\x27' c then consChar c (readLiteral rest) else refuse (c :: rest)
  | [] => refuse []

/-- Whether a backslash in front of a text hides a line break. -/
def hidesNewline (text : List Char) : Bool :=
  match skipBlanks text with
  | '\n' :: _ | '\r' :: '\n' :: _ => true
  | _ => false

/-- Whether a string over several lines goes on in front of a text, if it is not a mark that the
text begins with. -/
def continues (mark : Char) (escapes : Bool) (text : List Char) : Except Fault Bool :=
  match text with
  | [] | ['\\'] => .ok (!escapes && !text.isEmpty)
  | '\n' :: _ | '\r' :: '\n' :: _ => .ok true
  | '\\' :: rest =>
    if !escapes || hidesNewline rest then .ok true
    else match readEscape rest with
      | .ok _ => .ok true
      | .error _ => refuse text
  | c :: _ => .ok (isPlain mark c)

/-- The rest of a string over several lines. Up to two marks may stand in front of the three that
close it. While `hidden`, line breaks and blanks do not count. -/
def readLines (mark : Char) (escapes : Bool) :
    (hidden : Bool) → Nat → List Char → Reading (List Char)
  | hidden, skip + 1, _ :: rest => readLines mark escapes hidden skip rest
  | hidden, 0, '\r' :: '\n' :: rest =>
    if hidden then readLines mark escapes true 0 rest
    else consChar '\n' (readLines mark escapes false 0 rest)
  | hidden, 0, c :: rest =>
    if hidden && (isBlank c || c == '\n') then readLines mark escapes true 0 rest
    else if c = '\n' then consChar c (readLines mark escapes false 0 rest)
    else if c = mark then
      let marks := (c :: rest).takeWhile (· == mark)
      if 3 ≤ marks.length then
        let extra := min marks.length 5 - 3
        .ok (List.replicate extra mark, (c :: rest).drop (extra + 3))
      else (continues mark escapes ((c :: rest).drop marks.length)).bind fun goesOn =>
        if goesOn then consChar c (readLines mark escapes false 0 rest) else refuse (c :: rest)
    else if escapes && c == '\\' then
      if hidesNewline rest then readLines mark escapes true 0 rest
      else (readEscape rest).bind fun (escaped, length) =>
        consChar escaped (readLines mark escapes false length rest)
    else if isPlain mark c then consChar c (readLines mark escapes false 0 rest)
    else refuse (c :: rest)
  | _, _, [] => refuse []

/-- The text behind the line break that may follow the opening marks. -/
def skipFirstNewline (text : List Char) : List Char :=
  match readNewline text with
  | .ok rest => rest
  | .error _ => text

/-- A string of any kind. -/
def readString : List Char → Reading (List Char)
  | '"' :: '"' :: '"' :: rest => readLines '"' true false 0 (skipFirstNewline rest)
  | '\x27' :: '\x27' :: '\x27' :: rest => readLines '\x27' false false 0 (skipFirstNewline rest)
  | '"' :: rest => readBasic 0 rest
  | '\x27' :: rest => readLiteral rest
  | text => miss text

end BracketQuery.Toml
