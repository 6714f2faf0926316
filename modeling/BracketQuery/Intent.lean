import BracketQuery.Populate

/-!
Query intents: everything a caller wants from one list request.
-/

namespace BracketQuery

/-- A direction of sorting. -/
inductive SortOrder where
  | ascending
  | descending
  deriving DecidableEq, Repr, Inhabited

def SortOrder.spelling : SortOrder → String
  | ascending => "asc"
  | descending => "desc"

/-- The part of the result to return, by page or by offset. -/
structure Pagination where
  page : Option Int64
  pageSize : Option Int64
  start : Option Int64
  limit : Option Int64
  deriving DecidableEq, Repr, Inhabited

namespace Pagination

def empty : Pagination := ⟨none, none, none, none⟩

def ofPage (page pageSize : Int64) : Pagination := ⟨some page, some pageSize, none, none⟩

def ofOffset (start limit : Int64) : Pagination := ⟨none, none, some start, some limit⟩

/-- Everything: a limit of minus one is no limit. -/
def unbounded : Pagination := ⟨none, none, none, some (-1)⟩

/-- The members by name, in order. -/
def members (pagination : Pagination) : List (String × Option Int64) :=
  [("page", pagination.page), ("pageSize", pagination.pageSize), ("start", pagination.start),
    ("limit", pagination.limit)]

def isEmpty (pagination : Pagination) : Bool :=
  pagination.page.isNone && pagination.pageSize.isNone && pagination.start.isNone &&
    pagination.limit.isNone

end Pagination

/-- A structured description of a list request. -/
structure Intent where
  filters : Option FilterNode
  populate : Option Populate
  sort : List String
  pagination : Option Pagination
  fields : List String
  locale : Option String
  publicationState : Option String
  search : Option String

namespace Intent

/-- A request for everything in the backend's own way. -/
def empty : Intent := ⟨none, none, [], none, [], none, none, none⟩

instance : Inhabited Intent := ⟨empty⟩

/-- Append a sort key with its direction. -/
def sortBy (intent : Intent) (field : String) (order : SortOrder) : Intent :=
  { intent with sort := intent.sort ++ [field ++ ":" ++ order.spelling] }

end Intent

end BracketQuery
