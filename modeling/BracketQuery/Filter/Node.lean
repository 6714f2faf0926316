import BracketQuery.Filter.Operator
import BracketQuery.Filter.Scalar

/-!
Filter trees. A node is a list of entries, each a condition under a key: the name of a field, of a
relation, or one of the two combinators. Entries keep their order, and a key may occur again.
-/

namespace BracketQuery

/-- The condition under one key of a filter node. -/
inductive FilterValue where
  /-- Comparisons of a field. -/
  | operators (comparisons : List (Operator × Operand))
  /-- Conditions on a related entity. -/
  | nested (node : List (String × FilterValue))
  /-- Equality with a value. -/
  | scalar (value : Scalar)
  /-- Membership in a list of values. -/
  | list (values : List Scalar)
  /-- The nodes that a combinator combines. -/
  | group (members : List (List (String × FilterValue)))

/-- Conditions by key, in order. -/
abbrev FilterNode := List (String × FilterValue)

/-- The key of a group all of whose members must hold. -/
def allOfKey : String := "$and"

/-- The key of a group of which one member must hold. -/
def anyOfKey : String := "$or"

namespace FilterNode

/-- Append an entry. -/
def append (node : FilterNode) (key : String) (value : FilterValue) : FilterNode :=
  node ++ [(key, value)]

/-- Add a comparison to those of a field, if the first entry of the field holds comparisons; else
append an entry for it. -/
def addComparison (field : String) (operator : Operator) (operand : Operand) :
    FilterNode → FilterNode
  | [] => [(field, .operators [(operator, operand)])]
  | (key, value) :: rest =>
    if key = field then
      match value with
      | .operators comparisons => (key, .operators (comparisons ++ [(operator, operand)])) :: rest
      | _ => (key, value) :: rest ++ [(field, .operators [(operator, operand)])]
    else (key, value) :: addComparison field operator operand rest

/-- Append conditions on a relation. -/
def nest (node : FilterNode) (relation : String) (conditions : FilterNode) : FilterNode :=
  node.append relation (.nested conditions)

/-- Append a group all of whose members must hold. -/
def allOf (node : FilterNode) (members : List FilterNode) : FilterNode :=
  node.append allOfKey (.group members)

/-- Append a group of which one member must hold. -/
def anyOf (node : FilterNode) (members : List FilterNode) : FilterNode :=
  node.append anyOfKey (.group members)

/-- The condition of the first entry with the given key. -/
def get? (node : FilterNode) (key : String) : Option FilterValue :=
  (node.find? fun entry => entry.1 == key).map (·.2)

end FilterNode

mutual

/-- Equality of conditions is decided part by part. -/
def FilterValue.decEq : (a b : FilterValue) → Decidable (a = b)
  | .operators a, .operators b => decidable_of_iff (a = b) (by simp)
  | .nested a, .nested b => @decidable_of_iff _ (a = b) (by simp) (FilterNode.decEq a b)
  | .scalar a, .scalar b => decidable_of_iff (a = b) (by simp)
  | .list a, .list b => decidable_of_iff (a = b) (by simp)
  | .group a, .group b => @decidable_of_iff _ (a = b) (by simp) (FilterNode.decEqMembers a b)
  | .operators _, .nested _ | .operators _, .scalar _ | .operators _, .list _
  | .operators _, .group _ | .nested _, .operators _ | .nested _, .scalar _ | .nested _, .list _
  | .nested _, .group _ | .scalar _, .operators _ | .scalar _, .nested _ | .scalar _, .list _
  | .scalar _, .group _ | .list _, .operators _ | .list _, .nested _ | .list _, .scalar _
  | .list _, .group _ | .group _, .operators _ | .group _, .nested _ | .group _, .scalar _
  | .group _, .list _ => isFalse (by simp)

/-- Equality of nodes. -/
def FilterNode.decEq : (a b : FilterNode) → Decidable (a = b)
  | [], [] => isTrue rfl
  | [], _ :: _ | _ :: _, [] => isFalse (by simp)
  | (key, a) :: as, (key', b) :: bs =>
    have := FilterValue.decEq a b
    have := FilterNode.decEq as bs
    decidable_of_iff (key = key' ∧ a = b ∧ as = bs) (by simp [and_assoc])

/-- Equality of lists of nodes. -/
def FilterNode.decEqMembers : (a b : List FilterNode) → Decidable (a = b)
  | [], [] => isTrue rfl
  | [], _ :: _ | _ :: _, [] => isFalse (by simp)
  | a :: as, b :: bs =>
    have := FilterNode.decEq a b
    have := FilterNode.decEqMembers as bs
    decidable_of_iff (a = b ∧ as = bs) (by simp)

end

instance : DecidableEq FilterValue := FilterValue.decEq

end BracketQuery
