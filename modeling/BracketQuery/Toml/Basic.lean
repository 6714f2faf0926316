import BracketQuery.Binary64

/-!
TOML documents by their values. Values and keys remember where they start, so that a reader of
settings can say which value is wrong.
-/

namespace BracketQuery.Toml

/-- A place in a text, as the number of characters from there to the end. -/
abbrev Mark := Nat

/-- A key and where it is written. -/
structure Key where
  name : String
  mark : Mark
  deriving DecidableEq, Repr

/-- How a table comes to be in a document, which decides what may be added to it later. -/
inductive Origin where
  /-- It is the document itself or has a header. -/
  | header
  /-- It is written in braces. -/
  | braces
  /-- A longer header names it on the way. -/
  | implied
  /-- A key with dots names it on the way. -/
  | dotted
  deriving DecidableEq, Repr

/-- A value. Tables that are only named on the way to others have no place of their own. -/
inductive Value where
  | string (mark : Mark) (value : String)
  | boolean (mark : Mark) (value : Bool)
  | integer (mark : Mark) (value : Int)
  | float (mark : Mark) (value : Binary64)
  | dateTime (mark : Mark) (written : String)
  | array (mark : Mark) (elements : List Value)
  | table (mark : Option Mark) (origin : Origin) (entries : List (Key × Value))
  /-- The tables of one repeated header. -/
  | tables (elements : List Value)
  deriving Repr

/-- The entries of a table in the order in which they were completed. -/
abbrev Entries := List (Key × Value)

namespace Value

/-- Where a value starts; a list of tables starts with its first table. -/
def mark? : Value → Option Mark
  | string mark _ | boolean mark _ | integer mark _ | float mark _ | dateTime mark _
  | array mark _ =>
    some mark
  | table mark _ _ => mark
  | tables [] => none
  | tables (first :: _) => first.mark?

end Value

/-- The line and column of a place in a text, both counted from one. Columns count characters,
except that a place at a character beyond ASCII counts the bytes before it; the end of the text is
one column behind its last character, also where that is a line break. -/
def Mark.place (text : List Char) (mark : Mark) : Nat × Nat :=
  let before := text.take (text.length - max mark 1)
  let line := before.reverse.takeWhile (· != '\n')
  let width :=
    if mark != 0 ∧ (text.drop (text.length - mark)).head?.any (128 ≤ ·.toNat) then
      (line.map Char.utf8Size).sum
    else line.length
  (before.count '\n' + 1, width + 1 + (if mark = 0 ∧ text ≠ [] then 1 else 0))

end BracketQuery.Toml
