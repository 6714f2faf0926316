import BracketQuery.Percent

/-!
The parameters of a query in the order in which they are sent.
-/

namespace BracketQuery

/-- The groups of parameters, in the order in which they are sent. -/
inductive Category where
  | filters
  | populate
  | sort
  | pagination
  | fields
  | locale
  | publicationState
  | search
  deriving DecidableEq, Repr

namespace Category

/-- The name of a category. -/
def name : Category → String
  | filters => "filters"
  | populate => "populate"
  | sort => "sort"
  | pagination => "pagination"
  | fields => "fields"
  | locale => "locale"
  | publicationState => "publicationState"
  | search => "search"

/-- The key, or the root of the keys, of the parameters of a category. -/
def root : Category → String
  | search => "q"
  | category => category.name

/-- The categories in the order in which they are sent. -/
def all : List Category :=
  [filters, populate, sort, pagination, fields, locale, publicationState, search]

end Category

/-- One parameter, neither key nor value encoded. -/
structure Param where
  category : Category
  key : String
  value : String
  deriving DecidableEq, Repr

/-- Parameters in order. -/
abbrev Params := List Param

namespace Params

/-- Append a parameter. -/
def push (params : Params) (category : Category) (key value : String) : Params :=
  params ++ [⟨category, key, value⟩]

/-- Keys and values. -/
def pairs (params : Params) : List (String × String) := params.map fun p => (p.key, p.value)

/-- The value of the first parameter with the given key. -/
def get? (params : Params) (key : String) : Option String :=
  (params.find? fun p => p.key == key).map (·.value)

/-- The parameters of a category. -/
def ofCategory (params : Params) (category : Category) : Params :=
  params.filter fun p => p.category == category

/-- The query string: keys as they are and values encoded, without a leading question mark. -/
def queryString (params : Params) : String :=
  "&".intercalate (params.map fun p => p.key ++ "=" ++ Percent.encode p.value)

/-- What is said of parameters that have just been compiled. -/
def summary (params : Params) : String :=
  "compiled query intent into " ++ toString params.length ++ " wire params"

end Params

end BracketQuery
