import BracketQuery.Decimal.Layout

/-!
The two written forms of a double: the one of JSON documents, and the one sent in a query string.
-/

namespace BracketQuery.Binary64

/-- The sign that is written in front of the digits. -/
def signText (x : Binary64) : List Char := if x.negative then ['-'] else []

/-- A double in a JSON document: the shortest digits that identify it, positional with at least one
digit after the point while the leading digit stands between `10 ^ -5` and `10 ^ 15`, else
scientific; a tie between two shortest forms goes to the even one. JSON has no NaN and no infinity.
-/
def jsonText (x : Binary64) : String :=
  if !x.isFinite then "null"
  else if x.isZero then String.ofList (x.signText ++ ['0', '.', '0'])
  else
    let d := x.shortest .toEven
    let e := d.leadingExponent
    String.ofList (x.signText ++ if -5 ≤ e ∧ e < 16 then d.positional ['.', '0'] else d.scientific)

/-- A double in a query string: the shortest digits that identify it, always positional, an integer
without a point and zero without a sign; a tie goes up. -/
def wireText (x : Binary64) : String :=
  if x.isNaN then "NaN"
  else if x.isInfinite then (if x.negative then "-inf" else "inf")
  else if x.isZero then "0"
  else String.ofList (x.signText ++ (x.shortest .up).positional [])

end BracketQuery.Binary64
