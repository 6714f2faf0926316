import BracketQuery.Text.Runs

/-!
Properties of characters that have one of several values. The values are known by names, and are
numbered; runs of characters are listed with the numbers of their values.
-/

namespace BracketQuery.Text

/-- The lists of words of a text, which semicolons separate. -/
def wordLists (text : String) : List (List (List Char)) :=
  (text.toList.splitOn ';').map fun part => (part.splitOnP Char.isWhitespace).filter (!·.isEmpty)

/-- The runs that follow a name in the lists of a text. -/
def runsNamed (text name : String) : List Run :=
  match (wordLists text).find? (·.head? == some name.toList) with
  | some (_ :: runs) => runs.map Run.ofWord
  | _ => []

/-- A property as text: the names of the values, list by list in the order of their numbers, and
runs with the numbers of their values. -/
structure Partition where
  values : String
  runs : String

namespace Partition

/-- The number of the value of a name. -/
def number? (property : Partition) (name : String) : Option Nat :=
  (wordLists property.values).findIdx? fun names => names.contains name.toList

/-- The runs with one of several values. -/
def runsOf (property : Partition) (numbers : List Nat) : List Run :=
  (Run.table property.runs).filter fun run => run.values.any numbers.contains

end Partition

end BracketQuery.Text
