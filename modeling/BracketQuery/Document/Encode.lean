import BracketQuery.Intent
import BracketQuery.Json.Basic

/-!
JSON documents that state an intent. Entries of a node with the same key collapse, as members of a
JSON object do: the last one stays, in the place of the first.
-/

namespace BracketQuery

/-- A value as a JSON document; a double that JSON cannot write becomes null. -/
def Scalar.toJson : Scalar → Json
  | .string value => .string value
  | .integer value => .number (.integer value.toInt)
  | .float value => if value.isFinite then .number (.float value) else .null
  | .boolean value => .boolean value

def Operand.toJson : Operand → Json
  | .scalar value => value.toJson
  | .list values => .array (values.map Scalar.toJson)

mutual

def FilterValue.toJson : FilterValue → Json
  | .operators comparisons =>
    .object (Json.ofMembers (comparisons.map fun (operator, operand) =>
      (operator.spelling, operand.toJson)))
  | .nested node => .object (Json.ofMembers (FilterNode.toMembers node))
  | .scalar value => value.toJson
  | .list values => .array (values.map Scalar.toJson)
  | .group members => .array (FilterNode.toElements members)

/-- The entries of a node as members. -/
def FilterNode.toMembers : FilterNode → List (String × Json)
  | [] => []
  | (key, value) :: rest => (key, FilterValue.toJson value) :: FilterNode.toMembers rest

/-- The nodes of a group as elements. -/
def FilterNode.toElements : List FilterNode → List Json
  | [] => []
  | node :: rest =>
    .object (Json.ofMembers (FilterNode.toMembers node)) :: FilterNode.toElements rest

end

def FilterNode.toJson (node : FilterNode) : Json := .object (Json.ofMembers node.toMembers)

/-- A member that is present only if the list has elements. -/
def textsMember (name : String) (values : List String) : List (String × Json) :=
  if values.isEmpty then [] else [(name, Json.strings values)]

/-- A member that is present only if the value is. -/
def optionMember {α : Type} (name : String) (encode : α → Json) (value : Option α) :
    List (String × Json) :=
  (value.map fun value => (name, encode value)).toList

mutual

def Populate.toJson : Populate → Json
  | .all => .boolean true
  | .relation name => .string name
  | .relations names => Json.strings names
  | .shaped relations => .object (Json.ofMembers (Populate.toMembers relations))

/-- Relations as members. -/
def Populate.toMembers : List (String × RelationPopulate) → List (String × Json)
  | [] => []
  | (relation, inclusion) :: rest =>
    (relation, RelationPopulate.toJson inclusion) :: Populate.toMembers rest

def RelationPopulate.toJson : RelationPopulate → Json
  | .flag included => .boolean included
  | .name value => .string value
  | .shape shape => PopulateShape.toJson shape

def PopulateShape.toJson : PopulateShape → Json
  | .mk fields populate sort filters =>
    .object (textsMember "fields" fields ++ Populate.toMember populate ++
      textsMember "sort" sort ++ optionMember "filters" FilterNode.toJson filters)

/-- The member of an inclusion that may be absent. -/
def Populate.toMember : Option Populate → List (String × Json)
  | some populate => [("populate", Populate.toJson populate)]
  | none => []

end

/-- A pagination without its absent members. -/
def Pagination.toJson (pagination : Pagination) : Json :=
  .object (pagination.members.filterMap fun (name, value) =>
    value.map fun n => (name, .number (.integer n.toInt)))

/-- The document that states an intent. -/
def Intent.toJson (intent : Intent) : Json :=
  .object (optionMember "filters" FilterNode.toJson intent.filters ++
    optionMember "populate" Populate.toJson intent.populate ++
    textsMember "sort" intent.sort ++
    optionMember "pagination" Pagination.toJson intent.pagination ++
    textsMember "fields" intent.fields ++
    optionMember "locale" .string intent.locale ++
    optionMember "publicationState" .string intent.publicationState ++
    optionMember "q" .string intent.search)

end BracketQuery
