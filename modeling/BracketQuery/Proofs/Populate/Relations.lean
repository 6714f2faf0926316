import BracketQuery.Proofs.Normalization.Site

/-!
The relations of an inclusion at every depth that shapes lead to, each with the path at which it is,
and the filter trees of an intent with theirs. Normalization leaves relations and trees where they
are and treats each by itself.
-/

namespace BracketQuery

open Normalization

mutual

/-- The relations of an inclusion at a path: of a relation, first those below it. -/
def Populate.relationsAt (path : KeyPath) : Populate → List (KeyPath × RelationPopulate)
  | .shaped entries => Populate.relationsOfEntries path entries
  | .all | .relation _ | .relations _ => []

def Populate.relationsOfEntries (path : KeyPath) :
    List (String × RelationPopulate) → List (KeyPath × RelationPopulate)
  | [] => []
  | (name, inclusion) :: rest =>
    RelationPopulate.relationsBelow (path.child name) inclusion ++
      (path.child name, inclusion) :: Populate.relationsOfEntries path rest

def RelationPopulate.relationsBelow (path : KeyPath) :
    RelationPopulate → List (KeyPath × RelationPopulate)
  | .shape shape => PopulateShape.relationsBelow path shape
  | .flag _ | .name _ => []

def PopulateShape.relationsBelow (path : KeyPath) :
    PopulateShape → List (KeyPath × RelationPopulate)
  | .mk _ inner _ _ => Populate.relationsOfOption (path.child "populate") inner

def Populate.relationsOfOption (path : KeyPath) :
    Option Populate → List (KeyPath × RelationPopulate)
  | some populate => Populate.relationsAt path populate
  | none => []

end

/-- The filter tree of a relation at a path, if it has one, with the path of the tree. -/
def RelationPopulate.filterTree (path : KeyPath) : RelationPopulate → List (KeyPath × FilterNode)
  | .shape value => (value.filters.map (path.child "filters", ·)).toList
  | .flag _ | .name _ => []

/-- The filter trees of an intent: its own, and those of the relations it includes. -/
def Intent.filterTrees (i : Intent) : List (KeyPath × FilterNode) :=
  (i.filters.map (KeyPath.ofRoot "filters", ·)).toList ++
    (Populate.relationsOfOption (KeyPath.ofRoot "populate") i.populate).flatMap fun entry =>
      entry.2.filterTree entry.1

/-! ## Sites -/

/-- The sites of filter trees. -/
def sitesOfTrees (typeField : String) (trees : List (KeyPath × FilterNode)) : List Site :=
  trees.flatMap fun tree => FilterNode.sites typeField tree.1 tree.2

/-- The sites of the filter trees of relations. -/
def sitesOfRelations (typeField : String) (relations : List (KeyPath × RelationPopulate)) :
    List Site :=
  relations.flatMap fun entry => sitesOfTrees typeField (entry.2.filterTree entry.1)

theorem sitesOfRelations_append (typeField : String) (xs ys : List (KeyPath × RelationPopulate)) :
    sitesOfRelations typeField (xs ++ ys) =
      sitesOfRelations typeField xs ++ sitesOfRelations typeField ys :=
  List.flatMap_append

mutual

/-- The sites of an inclusion are those of the filter trees of its relations. -/
theorem Populate.sites_eq (typeField : String) (path : KeyPath) : (included : Populate) →
    included.sites typeField path = sitesOfRelations typeField (included.relationsAt path)
  | .shaped entries => Populate.sitesOfRelations_eq typeField path entries
  | .all | .relation _ | .relations _ => rfl

theorem Populate.sitesOfRelations_eq (typeField : String) (path : KeyPath) :
    (entries : List (String × RelationPopulate)) →
      Populate.sitesOfRelations typeField path entries =
        sitesOfRelations typeField (Populate.relationsOfEntries path entries)
  | [] => rfl
  | (name, inclusion) :: rest => by
      rw [Populate.sitesOfRelations, Populate.relationsOfEntries, sitesOfRelations_append,
        RelationPopulate.sites_eq typeField (path.child name) inclusion,
        Populate.sitesOfRelations_eq typeField path rest, List.append_assoc]
      rfl

theorem RelationPopulate.sites_eq (typeField : String) (path : KeyPath) :
    (inclusion : RelationPopulate) →
      inclusion.sites typeField path =
        sitesOfRelations typeField (inclusion.relationsBelow path) ++
          sitesOfTrees typeField (inclusion.filterTree path)
  | .shape shape => PopulateShape.sites_eq typeField path shape
  | .flag _ | .name _ => rfl

theorem PopulateShape.sites_eq (typeField : String) (path : KeyPath) : (shape : PopulateShape) →
    shape.sites typeField path =
      sitesOfRelations typeField (shape.relationsBelow path) ++
        sitesOfTrees typeField ((RelationPopulate.shape shape).filterTree path)
  | .mk _ inner _ filters => by
      have hi := Populate.sitesOfOption_eq typeField (path.child "populate") inner
      cases filters <;>
        simp [PopulateShape.sites, PopulateShape.relationsBelow, hi, sitesOfTrees,
          RelationPopulate.filterTree, PopulateShape.filters]

theorem Populate.sitesOfOption_eq (typeField : String) (path : KeyPath) :
    (included : Option Populate) →
      Populate.sitesOfOption typeField path included =
        sitesOfRelations typeField (Populate.relationsOfOption path included)
  | some populate => Populate.sites_eq typeField path populate
  | none => rfl

end

theorem Intent.sites_eq_sitesOfTrees (typeField : String) (i : Intent) :
    i.sites typeField = sitesOfTrees typeField i.filterTrees := by
  rw [sites, relationSites, Populate.sitesOfOption_eq, sitesOfTrees, filterTrees,
    List.flatMap_append, List.flatMap_assoc]
  congr 1
  unfold filterSites
  cases i.filters <;> simp

/-! ## Normalization -/

variable (o : Options)

/-- A relation at its path, normalized. -/
def normalizedRelation (entry : KeyPath × RelationPopulate) : KeyPath × RelationPopulate :=
  (entry.1, (relation o entry.1 entry.2).value)

/-- A filter tree at its path, normalized. -/
def normalizedTree (tree : KeyPath × FilterNode) : KeyPath × FilterNode :=
  (tree.1, (filterNode o tree.1 tree.2).value)

mutual

theorem relationsAt_populate (path : KeyPath) : (included : Populate) →
    (populate o path included).value.relationsAt path =
      (included.relationsAt path).map (normalizedRelation o)
  | .shaped entries => relationsOfEntries_relations path entries
  | .all | .relation _ | .relations _ => rfl

/-- Normalization leaves relations where they are, and treats each by itself. -/
theorem relationsOfEntries_relations (path : KeyPath) :
    (entries : List (String × RelationPopulate)) →
      Populate.relationsOfEntries path (relations o path entries).value =
        (Populate.relationsOfEntries path entries).map (normalizedRelation o)
  | [] => rfl
  | (name, inclusion) :: rest => by
      simp only [relations, Traced.value_bind, Traced.value_pure, Populate.relationsOfEntries,
        List.map_append, List.map_cons]
      rw [relationsBelow_relation (path.child name) inclusion,
        relationsOfEntries_relations path rest]
      rfl

theorem relationsBelow_relation (path : KeyPath) : (inclusion : RelationPopulate) →
    (relation o path inclusion).value.relationsBelow path =
      (inclusion.relationsBelow path).map (normalizedRelation o)
  | .shape value => relationsBelow_shape path value
  | .flag _ | .name _ => rfl

theorem relationsBelow_shape (path : KeyPath) : (value : PopulateShape) →
    (shape o path value).value.relationsBelow path =
      (value.relationsBelow path).map (normalizedRelation o)
  | .mk _ inner _ _ => relationsOfOption_optionalPopulate (path.child "populate") inner

theorem relationsOfOption_optionalPopulate (path : KeyPath) : (included : Option Populate) →
    Populate.relationsOfOption path (optionalPopulate o path included).value =
      (Populate.relationsOfOption path included).map (normalizedRelation o)
  | some value => relationsAt_populate path value
  | none => rfl

end

theorem filterTree_normalizedRelation (entry : KeyPath × RelationPopulate) :
    (normalizedRelation o entry).2.filterTree entry.1 =
      (entry.2.filterTree entry.1).map (normalizedTree o) := by
  obtain ⟨path, inclusion⟩ := entry
  cases inclusion with
  | flag _ | name _ => rfl
  | shape value =>
      obtain ⟨_, _, _, conditions⟩ := value
      cases conditions <;> rfl

/-- Normalization leaves filter trees where they are, and treats each by itself. -/
theorem Intent.filterTrees_normalize (i : Intent) :
    (i.normalize o).1.filterTrees = i.filterTrees.map (normalizedTree o) := by
  have hp : (i.normalize o).1.populate =
      (optionalPopulate o (KeyPath.ofRoot "populate") i.populate).value := rfl
  rw [filterTrees, filterTrees, filters_normalize, hp, relationsOfOption_optionalPopulate,
    List.map_append, List.map_flatMap, List.flatMap_map]
  congr 1
  · cases i.filters <;> rfl
  · congr 1
    funext entry
    exact filterTree_normalizedRelation o entry

end BracketQuery
