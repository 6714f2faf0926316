import BracketQuery.Json.Basic
import BracketQuery.Wire.Params

/-!
The JSON form of parameters.
-/

namespace BracketQuery

/-- A parameter as a document. -/
def Param.toJson (param : Param) : Json :=
  .object [("category", .string param.category.name), ("key", .string param.key),
    ("value", .string param.value)]

/-- Parameters as a document. -/
def Params.toJson (params : Params) : Json := .array (params.map Param.toJson)

end BracketQuery
