import BracketQuery.Regex.Reader
import BracketQuery.Regex.Translation

/-!
Regular expressions: what is looked for in a text.
-/

namespace BracketQuery

open Regex in
/-- The pattern that a text writes. -/
def Regex.parse (text : String) : Except Refusal Pattern :=
  let read : Except SyntaxError Pattern := do
    let node ← readPattern text.toList
    node.checkDepth 0
    (node.pattern .standard).map (·.1)
  match read with
  | .error error => .error (.malformed error)
  | .ok pattern => if maxSize < pattern.size then .error .tooLarge else .ok pattern

end BracketQuery
