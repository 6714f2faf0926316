/-!
Look-up of a character in a table of ranges of code points.
-/

namespace BracketQuery.Text

/-- Whether a character lies in one of the ranges, whose ends both count. -/
def inRanges (table : List (Nat × Nat)) (c : Char) : Bool :=
  table.any fun range => range.1 ≤ c.toNat && c.toNat ≤ range.2

end BracketQuery.Text
