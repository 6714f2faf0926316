import BracketQuery.Url.Parser
import BracketQuery.Wire.Params

/-!
Request URLs: the query string of parameters behind the query that a base URL already has.
-/

namespace BracketQuery.Params

/-- A query without the separators at its end. -/
def trimSeparators (query : List Char) : List Char := (query.reverse.dropWhile (· == '&')).reverse

/-- The base URL with the parameters at the end of its query. Without parameters it is the base URL
as it is written. -/
def attach (params : Params) (base : Url) : Url :=
  if params.isEmpty then base
  else
    let present := trimSeparators ((base.query.getD "").toList)
    let added := params.queryString.toList
    base.withQuery (if present.isEmpty then added else present ++ '&' :: added)

/-- The written form of a base URL with the parameters at the end of its query. -/
def url (params : Params) (base : String) : Except Url.Error String :=
  (Url.parse base).map fun base => (params.attach base).text

end BracketQuery.Params
