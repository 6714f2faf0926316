import BracketQuery.Regex.Cursor
import BracketQuery.Text.Digits

/-!
Reading what a backslash starts: characters that would mean something else, characters by number,
classes, properties and assertions.
-/

namespace BracketQuery.Regex

/-- The characters that mean something in expressions. -/
def signs : List Char := "\\.+*?()|[]\x7b\x7d^$#&-~".toList

/-- Whether a character stands for itself behind a backslash. -/
def isEscapable (c : Char) : Bool :=
  signs.contains c || (c < '\x80' && !c.isAlphanum && c != '<' && c != '>')

/-- The character of a number. -/
def charOf? (number : Nat) : Option Char :=
  if number < 0xD800 ∨ (0xDFFF < number ∧ number < 0x110000) then some (Char.ofNat number) else none

/-- Some digits of a number in hexadecimal. -/
def readHexDigits : (count : Nat) → Cursor → Reading (List Char)
  | 0, cursor => .ok ([], cursor)
  | count + 1, cursor =>
    match cursor.rest with
    | [] => cursor.failHere .unfinishedEscape
    | c :: _ =>
      if !Text.isHexDigit c then cursor.failAtChar .invalidHexDigit
      else (readHexDigits count cursor.step).map fun (digits, cursor) => (c :: digits, cursor)

/-- The digits behind a brace up to the next brace, of which there are at most `fuel`. -/
def readBracedDigits : (fuel : Nat) → (brace : Nat) → Cursor → Reading (List Char)
  | 0, brace, cursor => cursor.failSince .unfinishedEscape brace
  | fuel + 1, brace, cursor =>
    match cursor.rest with
    | [] => cursor.failSince .unfinishedEscape brace
    | '\x7d' :: _ => .ok ([], cursor)
    | c :: _ =>
      if !Text.isHexDigit c then cursor.failAtChar .invalidHexDigit
      else
        (readBracedDigits fuel brace cursor.step).map fun (digits, cursor) => (c :: digits, cursor)

/-- A character by its number, which has so many digits if it is not in braces. The cursor is at the
letter behind the backslash, which is at `start`. -/
def readHex (start digits : Nat) (cursor : Cursor) : Reading Literal :=
  let cursor := cursor.step
  match cursor.rest with
  | [] => cursor.failHere .unfinishedEscape
  | '\x7b' :: _ =>
    let digits := readBracedDigits (cursor.rest.length + 1) cursor.place cursor.step
    digits.bind fun (written, closing) =>
      let after := closing.step
      if written.isEmpty then after.failSince .emptyHex cursor.place
      else match (Text.hexNumber? written).bind charOf? with
        | none => fail .invalidHex (cursor.place + 1) closing.place
        | some char => .ok (⟨⟨start, after.place⟩, char, false⟩, after)
  | _ =>
    (readHexDigits digits cursor).bind fun (written, after) =>
      match (Text.hexNumber? written).bind charOf? with
      | none => after.failSince .invalidHex cursor.place
      | some char => .ok (⟨⟨start, after.place⟩, char, digits = 2⟩, after)

/-- The characters from the next one on up to a brace, of which there are at most `fuel`. -/
def readBraced : (fuel : Nat) → Cursor → List Char × Cursor
  | 0, cursor => ([], cursor)
  | fuel + 1, cursor =>
    match cursor.rest with
    | [] | '\x7d' :: _ => ([], cursor)
    | c :: _ =>
      let (more, cursor) := readBraced fuel cursor.step
      (c :: more, cursor)

/-- The text before a separator and behind it. -/
def splitAt? (separator : List Char) : (text : List Char) → Option (List Char × List Char)
  | [] => none
  | c :: rest =>
    if separator.isPrefixOf (c :: rest) then some ([], (c :: rest).drop separator.length)
    else (splitAt? separator rest).map fun (before, after) => (c :: before, after)

/-- The property that a text names. -/
def Property.ofText (text : List Char) : Property :=
  match ((splitAt? ['!', '='] text).or (splitAt? [':'] text)).or (splitAt? ['='] text) with
  | some (name, value) => .valued name value
  | none => .named text

/-- A property, by one letter or by what stands in braces. -/
def readProperty (start : Nat) (negated : Bool) (cursor : Cursor) : Reading (Span × Atom) :=
  let cursor := cursor.step
  match cursor.rest with
  | [] => cursor.failHere .unfinishedEscape
  | '\x7b' :: _ =>
    let (text, closing) := readBraced (cursor.rest.length + 1) cursor.step
    if closing.rest.isEmpty then closing.failHere .unfinishedEscape
    else
      let after := closing.next
      .ok ((⟨start, after.place⟩, .property (.ofText text) negated), after)
  | c :: _ =>
    if c = '\\' then cursor.failAtChar .invalidProperty
    else
      let after := cursor.step
      .ok ((⟨start, after.place⟩, .property (.named [c]) negated), after)

/-- Whether a character may be part of the name of a word boundary. -/
def isBoundaryName (c : Char) : Bool := c.isAlpha || c == '-'

/-- The letters of a name of a word boundary, of which there are at most `fuel`. -/
def readBoundaryName : (fuel : Nat) → Cursor → List Char × Cursor
  | 0, cursor => ([], cursor)
  | fuel + 1, cursor =>
    match cursor.rest with
    | [] => ([], cursor)
    | c :: _ =>
      if isBoundaryName c then
        let (more, cursor) := readBoundaryName fuel cursor.step
        (c :: more, cursor)
      else ([], cursor)

/-- The word boundary that is named in the braces at the cursor, if it is a name that they hold. -/
def readBoundary (start : Nat) (cursor : Cursor) : Reading (Option Assertion) :=
  let inside := cursor.step
  match inside.rest with
  | [] => inside.failSince .unfinishedBoundary start
  | c :: _ =>
    if !isBoundaryName c then .ok (none, cursor)
    else
      let (name, closing) := readBoundaryName (inside.rest.length + 1) inside
      if closing.rest.head? ≠ some '\x7d' then closing.failSince .unclosedBoundary cursor.place
      else match String.ofList name with
        | "start" => .ok (some .wordStart, closing.next)
        | "end" => .ok (some .wordEnd, closing.next)
        | "start-half" => .ok (some .wordStartHalf, closing.next)
        | "end-half" => .ok (some .wordEndHalf, closing.next)
        | _ => closing.failSince .unknownBoundary inside.place

/-- The character that a letter stands for. -/
def controlOf? : Char → Option Char
  | 'a' => some '\x07'
  | 'f' => some '\x0c'
  | 't' => some '\t'
  | 'n' => some '\n'
  | 'r' => some '\r'
  | 'v' => some '\x0b'
  | _ => none

/-- The assertion that a letter stands for. -/
def assertionOf? : Char → Option Assertion
  | 'A' => some .textStart
  | 'z' => some .textEnd
  | 'b' => some .wordBoundary
  | 'B' => some .noWordBoundary
  | '<' => some .wordStart
  | '>' => some .wordEnd
  | _ => none

/-- The class that a letter stands for, and whether it is negated. -/
def shortClassOf? : Char → Option (ShortClass × Bool)
  | 'd' => some (.digit, false)
  | 'D' => some (.digit, true)
  | 's' => some (.space, false)
  | 'S' => some (.space, true)
  | 'w' => some (.word, false)
  | 'W' => some (.word, true)
  | _ => none

/-- What a backslash at the cursor starts, with its place. -/
def readEscape (cursor : Cursor) : Reading (Span × Atom) :=
  let start := cursor.place
  let cursor := cursor.next
  let literal (reading : Reading Literal) : Reading (Span × Atom) :=
    reading.map fun (literal, cursor) => ((literal.span, .literal literal), cursor)
  match cursor.rest with
  | [] => cursor.failSince .unfinishedEscape start
  | c :: _ =>
    let after := cursor.next
    let span : Span := ⟨start, after.place⟩
    if c.isDigit then after.failSince .backreference start
    else if c = 'x' then literal (readHex start 2 cursor)
    else if c = 'u' then literal (readHex start 4 cursor)
    else if c = 'U' then literal (readHex start 8 cursor)
    else if c = 'p' ∨ c = 'P' then readProperty start (c = 'P') cursor
    else match shortClassOf? c, assertionOf? c with
      | some (kind, negated), _ => .ok ((span, .short kind negated), after)
      | none, some .wordBoundary =>
        if after.rest.head? = some '\x7b' then
          (readBoundary start after).map fun (named, after) =>
            match named with
            | some assertion => ((⟨start, after.place⟩, .assertion assertion), after)
            | none => ((span, .assertion .wordBoundary), after)
        else .ok ((span, .assertion .wordBoundary), after)
      | none, some assertion => .ok ((span, .assertion assertion), after)
      | none, none =>
        if isEscapable c then .ok ((span, .literal ⟨span, c, false⟩), after)
        else match controlOf? c with
          | some control => .ok ((span, .literal ⟨span, control, false⟩), after)
          | none => after.failSince .unknownEscape start

end BracketQuery.Regex
