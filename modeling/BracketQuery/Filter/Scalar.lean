import BracketQuery.Binary64.Written
import BracketQuery.Integer

/-!
The single values that a filter compares with.
-/

namespace BracketQuery

/-- A single value. -/
inductive Scalar where
  | string (value : String)
  | integer (value : Int64)
  | float (value : Binary64)
  | boolean (value : Bool)
  deriving DecidableEq, Repr

namespace Scalar

/-- The text that a value is sent as. -/
def wireText : Scalar → String
  | string value => value
  | integer value => Integer.text value
  | float value => value.wireText
  | boolean value => toString value

/-- The text of a string. -/
def string? : Scalar → Option String
  | string value => some value
  | _ => none

end Scalar

/-- What an operator compares with: one value, or a list of values. -/
inductive Operand where
  | scalar (value : Scalar)
  | list (values : List Scalar)
  deriving DecidableEq, Repr

end BracketQuery
