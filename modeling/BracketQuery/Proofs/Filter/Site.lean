import BracketQuery.Wire.Lowering

/-!
The sites of a filter tree: the places that hold what a field is compared with, in the order in
which they are sent. A tree sends what its sites send.
-/

namespace BracketQuery

/-- A place in a filter tree that holds one value or a list of values. -/
structure Site where
  path : KeyPath
  /-- Whether the values are type codes. -/
  coded : Bool
  operand : Operand
  deriving DecidableEq, Repr

/-- The operator that compares a field with type codes: one of a list, or a single one. -/
def Operand.codeOperator : Operand → Operator
  | .list _ => .isIn
  | .scalar _ => .eq

/-- The site of a comparison of the field at a path. -/
def Site.ofComparison (ofTypeField : Bool) (path : KeyPath) (comparison : Operator × Operand) :
    Site :=
  ⟨path.child comparison.1.spelling,
    ofTypeField && decide (comparison.1 = comparison.2.codeOperator), comparison.2⟩

/-- The parameters that a site sends. -/
def Site.lower (site : Site) : Params := site.operand.lower site.path

mutual

/-- The sites of the condition under a key at its path. -/
def FilterValue.sites (typeField : String) (path : KeyPath) (key : String) :
    FilterValue → List Site
  | .operators comparisons => comparisons.map (Site.ofComparison (key == typeField) path)
  | .nested node => FilterNode.sites typeField path node
  | .scalar value => [⟨path, false, .scalar value⟩]
  | .list values => [⟨path, false, .list values⟩]
  | .group members => FilterNode.sitesOfMembers typeField path 0 members

/-- The sites of a node at a path. -/
def FilterNode.sites (typeField : String) (path : KeyPath) : FilterNode → List Site
  | [] => []
  | (key, value) :: rest =>
    FilterValue.sites typeField (path.child key) key value ++ FilterNode.sites typeField path rest

/-- The sites of the members of a group, the first of which has the given place. -/
def FilterNode.sitesOfMembers (typeField : String) (path : KeyPath) (i : Nat) :
    List FilterNode → List Site
  | [] => []
  | node :: rest =>
    FilterNode.sites typeField (path.index i) node ++
      FilterNode.sitesOfMembers typeField path (i + 1) rest

end

mutual

/-- The sites of the relation filters of an inclusion at a path: of a relation, first those of its
own relations. -/
def Populate.sites (typeField : String) (path : KeyPath) : Populate → List Site
  | .shaped relations => Populate.sitesOfRelations typeField path relations
  | .all | .relation _ | .relations _ => []

/-- The sites of relations below a path. -/
def Populate.sitesOfRelations (typeField : String) (path : KeyPath) :
    List (String × RelationPopulate) → List Site
  | [] => []
  | (name, inclusion) :: rest =>
    RelationPopulate.sites typeField (path.child name) inclusion ++
      Populate.sitesOfRelations typeField path rest

/-- The sites of one relation. -/
def RelationPopulate.sites (typeField : String) (path : KeyPath) : RelationPopulate → List Site
  | .shape shape => PopulateShape.sites typeField path shape
  | .flag _ | .name _ => []

/-- The sites of what is included of a relation. -/
def PopulateShape.sites (typeField : String) (path : KeyPath) : PopulateShape → List Site
  | .mk _ inner _ filters =>
    Populate.sitesOfOption typeField (path.child "populate") inner ++
      (match filters with
        | some node => FilterNode.sites typeField (path.child "filters") node
        | none => [])

/-- The sites of an inclusion that may be absent. -/
def Populate.sitesOfOption (typeField : String) (path : KeyPath) : Option Populate → List Site
  | some populate => Populate.sites typeField path populate
  | none => []

end

namespace Intent

/-- The sites of the filters of an intent. -/
def filterSites (typeField : String) (intent : Intent) : List Site :=
  match intent.filters with
  | some node => FilterNode.sites typeField (KeyPath.ofRoot "filters") node
  | none => []

/-- The sites of the filters of every relation that an intent includes. -/
def relationSites (typeField : String) (intent : Intent) : List Site :=
  Populate.sitesOfOption typeField (KeyPath.ofRoot "populate") intent.populate

/-- All sites of an intent. -/
def sites (typeField : String) (intent : Intent) : List Site :=
  intent.filterSites typeField ++ intent.relationSites typeField

end Intent

/-! ## A tree sends what its sites send -/

mutual

theorem FilterValue.lower_eq_flatMap_sites (typeField : String) (path : KeyPath) (key : String) :
    (value : FilterValue) →
      value.lower path = (value.sites typeField path key).flatMap Site.lower
  | .operators comparisons => by
      simp only [FilterValue.lower, FilterValue.sites, List.flatMap_map]
      rfl
  | .nested node => by
      simpa only [FilterValue.lower, FilterValue.sites] using
        FilterNode.lower_eq_flatMap_sites typeField path node
  | .scalar _ => by simp [FilterValue.lower, FilterValue.sites, Site.lower, Operand.lower]
  | .list _ => by simp [FilterValue.lower, FilterValue.sites, Site.lower, Operand.lower]
  | .group members => by
      simpa only [FilterValue.lower, FilterValue.sites] using
        FilterNode.lowerMembers_eq_flatMap_sites typeField path 0 members

/-- Which field holds type codes makes no difference to what is sent. -/
theorem FilterNode.lower_eq_flatMap_sites (typeField : String) (path : KeyPath) :
    (node : FilterNode) →
      FilterNode.lower path node = (FilterNode.sites typeField path node).flatMap Site.lower
  | [] => rfl
  | (key, value) :: rest => by
      simp only [FilterNode.lower, FilterNode.sites, List.flatMap_append]
      rw [FilterValue.lower_eq_flatMap_sites typeField (path.child key) key value,
        FilterNode.lower_eq_flatMap_sites typeField path rest]

theorem FilterNode.lowerMembers_eq_flatMap_sites (typeField : String) (path : KeyPath) (i : Nat) :
    (members : List FilterNode) →
      FilterNode.lowerMembers path i members =
        (FilterNode.sitesOfMembers typeField path i members).flatMap Site.lower
  | [] => rfl
  | node :: rest => by
      simp only [FilterNode.lowerMembers, FilterNode.sitesOfMembers, List.flatMap_append]
      rw [FilterNode.lower_eq_flatMap_sites typeField (path.index i) node,
        FilterNode.lowerMembers_eq_flatMap_sites typeField path (i + 1) rest]

end

/-! ## Sites with type codes lie under the type field -/

/-- The path of the type codes with which an operator compares the entity at a path. -/
def KeyPath.codes (parent : KeyPath) (typeField : String) (operator : Operator) : KeyPath :=
  (parent.child typeField).child operator.spelling

/-- A site with type codes has the path of the operator that fits what it holds. -/
def Site.IsPlaced (typeField : String) (site : Site) : Prop :=
  site.coded = true →
    ∃ parent : KeyPath, site.path = parent.codes typeField site.operand.codeOperator

theorem Site.ofComparison_placed (typeField : String) (path : KeyPath) (key : String)
    (c : Operator × Operand) :
    (Site.ofComparison (key == typeField) (path.child key) c).IsPlaced typeField := by
  intro h
  simp only [Site.ofComparison, Bool.and_eq_true, beq_iff_eq, decide_eq_true_eq] at h
  obtain ⟨hk, ho⟩ := h
  exact ⟨path, by simp only [Site.ofComparison, KeyPath.codes, hk, ho]⟩

mutual

theorem FilterValue.sites_placed (typeField : String) (path : KeyPath) (key : String) :
    (value : FilterValue) →
      ∀ site ∈ value.sites typeField (path.child key) key, site.IsPlaced typeField
  | .operators comparisons => by
      simp only [FilterValue.sites, List.mem_map]
      rintro _ ⟨c, _, rfl⟩
      exact Site.ofComparison_placed typeField path key c
  | .nested node => by
      simpa only [FilterValue.sites] using FilterNode.sites_placed typeField (path.child key) node
  | .scalar _ => by simp [FilterValue.sites, Site.IsPlaced]
  | .list _ => by simp [FilterValue.sites, Site.IsPlaced]
  | .group members => by
      simpa only [FilterValue.sites] using
        FilterNode.sitesOfMembers_placed typeField (path.child key) 0 members

theorem FilterNode.sites_placed (typeField : String) (path : KeyPath) : (node : FilterNode) →
    ∀ site ∈ FilterNode.sites typeField path node, site.IsPlaced typeField
  | [] => by simp [FilterNode.sites]
  | (key, value) :: rest => by
      simp only [FilterNode.sites, List.mem_append]
      rintro site (h | h)
      · exact FilterValue.sites_placed typeField path key value site h
      · exact FilterNode.sites_placed typeField path rest site h

theorem FilterNode.sitesOfMembers_placed (typeField : String) (path : KeyPath) (i : Nat) :
    (members : List FilterNode) →
      ∀ site ∈ FilterNode.sitesOfMembers typeField path i members, site.IsPlaced typeField
  | [] => by simp [FilterNode.sitesOfMembers]
  | node :: rest => by
      simp only [FilterNode.sitesOfMembers, List.mem_append]
      rintro site (h | h)
      · exact FilterNode.sites_placed typeField (path.index i) node site h
      · exact FilterNode.sitesOfMembers_placed typeField path (i + 1) rest site h

end

end BracketQuery
