import BracketQuery.Intent
import BracketQuery.KeyPath
import BracketQuery.Wire.Params

/-!
The parameters that stand for an intent. Each leaf of a filter tree gives one parameter, whose key
is the path to the leaf; an empty list and an empty node give none. The parameters of a tree can be
had by themselves (`lower`), or pushed one by one to those that are there already.
-/

namespace BracketQuery

/-- One parameter for each text of a list, its place in the list the last part of its key. -/
def lowerIndexed (category : Category) (path : KeyPath) (values : List String) : Params :=
  values.mapIdx fun i value => ⟨category, (path.index i).text, value⟩

/-- The parameters of what a comparison compares with. -/
def Operand.lower (path : KeyPath) : Operand → Params
  | .scalar value => [⟨.filters, path.text, value.wireText⟩]
  | .list values => lowerIndexed .filters path (values.map Scalar.wireText)

mutual

/-- The parameters of the condition at a path. -/
def FilterValue.lower (path : KeyPath) : FilterValue → Params
  | .operators comparisons =>
    comparisons.flatMap fun (operator, operand) => operand.lower (path.child operator.spelling)
  | .nested node => FilterNode.lower path node
  | .scalar value => [⟨.filters, path.text, value.wireText⟩]
  | .list values => lowerIndexed .filters path (values.map Scalar.wireText)
  | .group members => FilterNode.lowerMembers path 0 members

/-- The parameters of a node at a path. -/
def FilterNode.lower (path : KeyPath) : FilterNode → Params
  | [] => []
  | (key, value) :: rest => FilterValue.lower (path.child key) value ++ FilterNode.lower path rest

/-- The parameters of the members of a group, the first of which has the given place. -/
def FilterNode.lowerMembers (path : KeyPath) (i : Nat) :
    List FilterNode → Params
  | [] => []
  | node :: rest =>
    FilterNode.lower (path.index i) node ++ FilterNode.lowerMembers path (i + 1) rest

end

/-- The parameters of the filters of a relation, which count as part of what is included. -/
def FilterNode.lowerOfRelation (path : KeyPath) (node : FilterNode) : Params :=
  (FilterNode.lower path node).map fun p => { p with category := .populate }

/-- The value that stands for every relation. -/
def everyRelation : String := "*"

mutual

/-- The parameters of an inclusion at a path. -/
def Populate.lower (path : KeyPath) : Populate → Params
  | .all => [⟨.populate, path.text, everyRelation⟩]
  | .relation name => if name = "" then [] else [⟨.populate, path.text, name⟩]
  | .relations names => lowerIndexed .populate path names
  | .shaped relations => Populate.lowerRelations path relations

/-- The parameters of relations below a path. -/
def Populate.lowerRelations (path : KeyPath) : List (String × RelationPopulate) → Params
  | [] => []
  | (relation, inclusion) :: rest =>
    RelationPopulate.lower (path.child relation) inclusion ++ Populate.lowerRelations path rest

/-- The parameters of one relation. -/
def RelationPopulate.lower (path : KeyPath) : RelationPopulate → Params
  | .flag included => [⟨.populate, path.text, toString included⟩]
  | .name value => [⟨.populate, path.text, value⟩]
  | .shape shape => if shape.isEmpty then [⟨.populate, path.text, "true"⟩] else shape.lower path

/-- The parameters of what is included of a relation: its fields, its own relations, its order and
its conditions. -/
def PopulateShape.lower (path : KeyPath) : PopulateShape → Params
  | .mk fields populate sort filters =>
    lowerIndexed .populate (path.child "fields") fields ++
      Populate.lowerOption (path.child "populate") populate ++
      lowerIndexed .populate (path.child "sort") sort ++
      (match filters with
        | some node => FilterNode.lowerOfRelation (path.child "filters") node
        | none => [])

/-- The parameters of an inclusion that may be absent. -/
def Populate.lowerOption (path : KeyPath) : Option Populate → Params
  | some populate => Populate.lower path populate
  | none => []

end

/-- The parameters of the members of a pagination that are present. -/
def Pagination.lower (pagination : Pagination) : Params :=
  pagination.members.filterMap fun (name, value) =>
    value.map fun n =>
      ⟨.pagination, ((KeyPath.ofRoot Category.pagination.root).child name).text, Integer.text n⟩

/-- The parameter of a text that is present and not empty. -/
def lowerText (category : Category) : Option String → Params
  | some value => if value = "" then [] else [⟨category, category.root, value⟩]
  | none => []

namespace Params

/-- Push one parameter for each text of a list. -/
def pushIndexed (params : Params) (category : Category) (path : KeyPath) (values : List String) :
    Params :=
  values.zipIdx.foldl (fun params (value, i) => params.push category (path.index i).text value) params

/-- Push the parameters of what a comparison compares with. -/
def pushOperand (params : Params) (path : KeyPath) : Operand → Params
  | .scalar value => params.push .filters path.text value.wireText
  | .list values => params.pushIndexed .filters path (values.map Scalar.wireText)

mutual

/-- Push the parameters of the condition at a path. -/
def pushCondition (params : Params) (path : KeyPath) : FilterValue → Params
  | .operators comparisons =>
    comparisons.foldl (fun params (operator, operand) =>
      params.pushOperand (path.child operator.spelling) operand) params
  | .nested node => pushNode params path node
  | .scalar value => params.push .filters path.text value.wireText
  | .list values => params.pushIndexed .filters path (values.map Scalar.wireText)
  | .group members => pushMembers params path 0 members

/-- Push the parameters of a node at a path. -/
def pushNode (params : Params) (path : KeyPath) : FilterNode → Params
  | [] => params
  | (key, value) :: rest => pushNode (pushCondition params (path.child key) value) path rest

/-- Push the parameters of the members of a group, the first of which has the given place. -/
def pushMembers (params : Params) (path : KeyPath) (i : Nat) : List FilterNode → Params
  | [] => params
  | node :: rest => pushMembers (pushNode params (path.index i) node) path (i + 1) rest

end

/-- Push the parameters of the filters of a relation: those of the filters by themselves, as part of
what is included. -/
def pushOfRelation (params : Params) (path : KeyPath) (node : FilterNode) : Params :=
  (FilterNode.lower path node).foldl (fun params p => params.push .populate p.key p.value) params

mutual

/-- Push the parameters of an inclusion at a path. -/
def pushPopulate (params : Params) (path : KeyPath) : Populate → Params
  | .all => params.push .populate path.text everyRelation
  | .relation name => if name = "" then params else params.push .populate path.text name
  | .relations names => params.pushIndexed .populate path names
  | .shaped relations => pushRelations params path relations

/-- Push the parameters of relations below a path. -/
def pushRelations (params : Params) (path : KeyPath) : List (String × RelationPopulate) → Params
  | [] => params
  | (relation, inclusion) :: rest =>
    pushRelations (pushRelation params (path.child relation) inclusion) path rest

/-- Push the parameters of one relation. -/
def pushRelation (params : Params) (path : KeyPath) : RelationPopulate → Params
  | .flag included => params.push .populate path.text (toString included)
  | .name value => params.push .populate path.text value
  | .shape shape =>
    if shape.isEmpty then params.push .populate path.text "true" else pushShape params path shape

/-- Push the parameters of what is included of a relation. -/
def pushShape (params : Params) (path : KeyPath) : PopulateShape → Params
  | .mk fields populate sort filters =>
    let params := params.pushIndexed .populate (path.child "fields") fields
    let params := pushOption params (path.child "populate") populate
    let params := params.pushIndexed .populate (path.child "sort") sort
    match filters with
    | some node => params.pushOfRelation (path.child "filters") node
    | none => params

/-- Push the parameters of an inclusion that may be absent. -/
def pushOption (params : Params) (path : KeyPath) : Option Populate → Params
  | some populate => pushPopulate params path populate
  | none => params

end

end Params

namespace Intent

/-- The parameters of an intent, category by category. -/
def lower (intent : Intent) : Params :=
  let path (category : Category) := KeyPath.ofRoot category.root
  let params := match intent.filters with
    | some node => Params.pushNode [] (path .filters) node
    | none => []
  params.pushOption (path .populate) intent.populate ++
  lowerIndexed .sort (path .sort) intent.sort ++
  (match intent.pagination with
    | some pagination => pagination.lower
    | none => []) ++
  lowerIndexed .fields (path .fields) intent.fields ++
  lowerText .locale intent.locale ++
  lowerText .publicationState intent.publicationState ++
  lowerText .search intent.search

/-- The query string of an intent. -/
def compile (intent : Intent) : String := intent.lower.queryString

end Intent

end BracketQuery
