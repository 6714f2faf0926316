import BracketQuery.Filter.Node

/-!
Which related entities a response includes: all of them, some by name, or each with its own
projection, order, filters and further inclusions.
-/

namespace BracketQuery

mutual

/-- The related entities to include. -/
inductive Populate where
  /-- Every relation of the entity. -/
  | all
  /-- One relation. -/
  | relation (name : String)
  /-- Some relations. -/
  | relations (names : List String)
  /-- Relations, each with the way in which it is included. -/
  | shaped (relations : List (String × RelationPopulate))

/-- The way in which one relation is included. -/
inductive RelationPopulate where
  | flag (included : Bool)
  | name (value : String)
  | shape (shape : PopulateShape)

/-- What is included of the entities of a relation. -/
inductive PopulateShape where
  | mk (fields : List String) (populate : Option Populate) (sort : List String)
    (filters : Option FilterNode)

end

namespace PopulateShape

/-- The fields to return, all of them if there are none. -/
def fields : PopulateShape → List String
  | mk fields _ _ _ => fields

/-- The relations of the related entity to include. -/
def populate : PopulateShape → Option Populate
  | mk _ populate _ _ => populate

/-- The order of the related entities. -/
def sort : PopulateShape → List String
  | mk _ _ sort _ => sort

/-- The conditions on the related entities. -/
def filters : PopulateShape → Option FilterNode
  | mk _ _ _ filters => filters

/-- A shape that asks for nothing in particular. -/
def empty : PopulateShape := mk [] none [] none

def withFields (shape : PopulateShape) (fields : List String) : PopulateShape :=
  mk fields shape.populate shape.sort shape.filters

def withPopulate (shape : PopulateShape) (populate : Populate) : PopulateShape :=
  mk shape.fields (some populate) shape.sort shape.filters

def withSort (shape : PopulateShape) (sort : List String) : PopulateShape :=
  mk shape.fields shape.populate sort shape.filters

def withFilters (shape : PopulateShape) (filters : FilterNode) : PopulateShape :=
  mk shape.fields shape.populate shape.sort (some filters)

/-- Whether a shape asks for nothing in particular. -/
def isEmpty (shape : PopulateShape) : Bool :=
  shape.fields.isEmpty && shape.populate.isNone && shape.sort.isEmpty && shape.filters.isNone

end PopulateShape

/-- The relations that an inclusion names, each with the way in which it is included. -/
def Populate.shapes : Populate → List (String × RelationPopulate)
  | .all => []
  | .relation name => [(name, .flag true)]
  | .relations names => names.map fun name => (name, .flag true)
  | .shaped entries => entries

/-- Include one more relation. -/
def Populate.append (populate : Populate) (relation : String) (inclusion : RelationPopulate) :
    Populate :=
  .shaped (populate.shapes ++ [(relation, inclusion)])

end BracketQuery
