import BracketQuery.Toml.Basic

/-!
What the readers of a TOML document share: how they fail, and the characters between tokens. A
reader that fails either leaves it open whether the text is something else, or settles that the
document is wrong.
-/

namespace BracketQuery.Toml

/-- Where a reader failed, and whether that settles that the document is wrong. -/
structure Fault where
  mark : Mark
  final : Bool
  deriving DecidableEq, Repr

/-- The outcome of reading something from the front of a text. -/
abbrev Reading (α : Type) := Except Fault (α × List Char)

/-- The text is not what the reader reads. -/
def miss {α : Type} (text : List Char) : Except Fault α := .error ⟨text.length, false⟩

/-- The document is wrong. -/
def refuse {α : Type} (text : List Char) : Except Fault α := .error ⟨text.length, true⟩

/-- Settle that what is read cannot be anything else. -/
def commit {α : Type} (outcome : Except Fault α) : Except Fault α :=
  outcome.mapError fun fault => { fault with final := true }

/-- A fault counts at another place. -/
def failAt {α : Type} (text : List Char) (outcome : Except Fault α) : Except Fault α :=
  outcome.mapError fun fault => { fault with mark := text.length }

/-- Read in another way if the first way leaves it open. -/
def orElse {α : Type} (first second : List Char → Reading α) (text : List Char) : Reading α :=
  match first text with
  | .error ⟨_, false⟩ => second text
  | outcome => outcome

/-- Read something that may be absent. -/
def optional {α : Type} (read : List Char → Reading α) (text : List Char) : Reading (Option α) :=
  match read text with
  | .ok (value, rest) => .ok (some value, rest)
  | .error ⟨_, false⟩ => .ok (none, text)
  | .error fault => .error fault

/-- The given character. -/
def expect (c : Char) : List Char → Except Fault (List Char)
  | d :: rest => if c = d then .ok rest else miss (d :: rest)
  | [] => miss []

/-- The given characters. -/
def expectWord (word text : List Char) : Except Fault (List Char) :=
  if word.isPrefixOf text then .ok (text.drop word.length) else miss text

/-- Space and tab. -/
def isBlank (c : Char) : Bool := c == ' ' || c == '\t'

def skipBlanks (text : List Char) : List Char := text.dropWhile isBlank

/-- A character that may stand in a comment. -/
def isPrintable (c : Char) : Bool := c == '\t' || (32 ≤ c.toNat && c.toNat != 127)

/-- A line break; a carriage return belongs to the line feed behind it. -/
def readNewline : List Char → Except Fault (List Char)
  | '\n' :: rest => .ok rest
  | '\r' :: '\n' :: rest => .ok rest
  | '\r' :: rest => miss rest
  | text => miss text

/-- The text behind a comment, if there is one. -/
def skipComment : List Char → List Char
  | '#' :: rest => rest.dropWhile isPrintable
  | text => text

/-- The end of a line or of the document. -/
def readLineEnd (text : List Char) : Except Fault (List Char) :=
  match readNewline text with
  | .ok rest => .ok rest
  | .error _ => if text.isEmpty then .ok [] else miss text

/-- The end of a line, perhaps behind a comment. -/
def readTrailing (text : List Char) : Except Fault (List Char) :=
  readLineEnd (skipComment (skipBlanks text))

/-- Blanks, line breaks and comments with their line breaks, in at most `fuel` steps. -/
def skipLines : Nat → List Char → Except Fault (List Char)
  | 0, text => .ok text
  | fuel + 1, text =>
    let text := skipBlanks text
    match text with
    | '#' :: _ => (readNewline (skipComment text)).bind (skipLines fuel)
    | '\n' :: _ | '\r' :: _ => (readNewline text).bind (skipLines fuel)
    | _ => .ok text

/-- Everything between the values of an array. -/
def skipTrivia (text : List Char) : Except Fault (List Char) := skipLines (text.length + 1) text

end BracketQuery.Toml
