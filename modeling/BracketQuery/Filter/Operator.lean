/-!
Comparison operators of filters. Seventeen are known; any other spelling is kept as it is.
-/

namespace BracketQuery

/-- An operator of a filter. -/
inductive Operator where
  | eq
  | ne
  | isIn
  | notIn
  | lt
  | lte
  | gt
  | gte
  | between
  | contains
  | notContains
  | containsi
  | notContainsi
  | startsWith
  | endsWith
  | isNull
  | notNull
  | other (spelling : String)
  deriving DecidableEq, Repr

namespace Operator

/-- The known operators. -/
def known : List Operator :=
  [eq, ne, isIn, notIn, lt, lte, gt, gte, between, contains, notContains, containsi, notContainsi,
    startsWith, endsWith, isNull, notNull]

/-- How an operator is written. -/
def spelling : Operator → String
  | eq => "$eq"
  | ne => "$ne"
  | isIn => "$in"
  | notIn => "$notIn"
  | lt => "$lt"
  | lte => "$lte"
  | gt => "$gt"
  | gte => "$gte"
  | between => "$between"
  | contains => "$contains"
  | notContains => "$notContains"
  | containsi => "$containsi"
  | notContainsi => "$notContainsi"
  | startsWith => "$startsWith"
  | endsWith => "$endsWith"
  | isNull => "$null"
  | notNull => "$notNull"
  | other spelling => spelling

/-- The known operator with the given spelling. -/
def parse? (spelling : String) : Option Operator :=
  known.find? fun operator => operator.spelling == spelling

/-- Whether a text is the spelling of a known operator. -/
def isKnown (spelling : String) : Bool := (parse? spelling).isSome

/-- The operator with the given spelling, known or not. -/
def ofSpelling (spelling : String) : Operator := (parse? spelling).getD (other spelling)

@[simp] theorem spelling_ofSpelling (text : String) : (ofSpelling text).spelling = text := by
  unfold ofSpelling parse?
  cases h : known.find? fun operator => operator.spelling == text with
  | none => rfl
  | some operator => simpa using List.find?_some h

end Operator

end BracketQuery
