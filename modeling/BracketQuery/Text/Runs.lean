import BracketQuery.Text.Digits

/-!
Tables of characters as text. A table is a list of words with blanks between them. A word names a
run of code points by its first and last one, or the only one, in hexadecimal; behind a colon it may
list numbers that belong to the run.
-/

namespace BracketQuery.Text

/-- A run of code points, with the numbers that a table gives it. -/
structure Run where
  first : Nat
  last : Nat
  values : List Nat
  deriving DecidableEq, Repr

namespace Run

/-- The number that hexadecimal digits write; zero if they write none. -/
def number (digits : List Char) : Nat := (hexNumber? digits).getD 0

/-- The run that a word names. -/
def ofWord (word : List Char) : Run :=
  let (ends, values) := match word.splitOn ':' with
    | [ends, values] => (ends, values)
    | _ => (word, [])
  let values := if values.isEmpty then [] else (values.splitOn ',').map number
  match ends.splitOn '-' with
  | [first, last] => ⟨number first, number last, values⟩
  | _ => ⟨number ends, number ends, values⟩

/-- The runs that a text lists. -/
def table (text : String) : List Run :=
  ((text.toList.splitOnP Char.isWhitespace).filter (!·.isEmpty)).map ofWord

/-- Whether a character lies in a run. -/
def contains (run : Run) (c : Char) : Bool := run.first ≤ c.toNat && c.toNat ≤ run.last

/-- The characters that belong to a character of a run: those of the only number and what follows
it, in the same order, or those of all numbers. -/
def image (run : Run) (c : Char) : List Char :=
  match run.values with
  | [start] => [Char.ofNat (start + (c.toNat - run.first))]
  | values => values.map Char.ofNat

end Run

/-- The run of a table that a character lies in. -/
def runOf? (table : List Run) (c : Char) : Option Run := table.find? fun run => run.contains c

/-- Whether a character lies in a run of a table. -/
def inTable (table : List Run) (c : Char) : Bool := table.any fun run => run.contains c

end BracketQuery.Text
