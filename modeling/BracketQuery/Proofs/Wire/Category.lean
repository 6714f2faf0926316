import BracketQuery.Proofs.Wire.Pushing

/-!
The parameters of an intent by category: each member of an intent gives the parameters of one
category, and no other member gives any of it.
-/

namespace BracketQuery

/-- All of the parameters belong to a category. -/
def Params.AllOf (category : Category) (params : Params) : Prop :=
  ∀ p ∈ params, p.category = category

namespace Params.AllOf

variable {category : Category} {xs ys : Params}

theorem nil : AllOf category [] := by simp [AllOf]

theorem append (hx : AllOf category xs) (hy : AllOf category ys) : AllOf category (xs ++ ys) := by
  intro p hp
  rcases List.mem_append.mp hp with h | h
  · exact hx p h
  · exact hy p h

theorem singleton (key value : String) : AllOf category [⟨category, key, value⟩] := by simp [AllOf]

/-- The parameters of the category are all of them. -/
theorem ofCategory_self (h : AllOf category xs) : xs.ofCategory category = xs := by
  simp only [ofCategory, List.filter_eq_self, beq_iff_eq]
  exact h

/-- There are none of another category. -/
theorem ofCategory_other (h : AllOf category xs) {other : Category} (hne : category ≠ other) :
    xs.ofCategory other = [] := by
  simp only [ofCategory, List.filter_eq_nil_iff, beq_iff_eq]
  intro p hp
  rw [h p hp]
  exact hne

end Params.AllOf

open Params (AllOf)

/-! ## Trees -/

theorem lowerIndexed_allOf (category : Category) (path : KeyPath) (values : List String) :
    AllOf category (lowerIndexed category path values) := by
  intro p hp
  simp only [lowerIndexed, List.mem_mapIdx] at hp
  obtain ⟨_, _, rfl⟩ := hp
  rfl

theorem Operand.lower_allOf (path : KeyPath) : (operand : Operand) →
    AllOf .filters (operand.lower path)
  | .scalar value => .singleton path.text value.wireText
  | .list values => lowerIndexed_allOf .filters path (values.map Scalar.wireText)

mutual

theorem FilterValue.lower_allOf (path : KeyPath) : (value : FilterValue) →
    AllOf .filters (value.lower path)
  | .operators comparisons => by
      intro p hp
      simp only [FilterValue.lower, List.mem_flatMap] at hp
      obtain ⟨c, _, hp⟩ := hp
      exact c.2.lower_allOf (path.child c.1.spelling) p hp
  | .nested node => by
      simpa only [FilterValue.lower] using FilterNode.lower_allOf path node
  | .scalar value => by
      simpa only [FilterValue.lower] using AllOf.singleton path.text value.wireText
  | .list values => by
      simpa only [FilterValue.lower] using
        lowerIndexed_allOf .filters path (values.map Scalar.wireText)
  | .group members => by
      simpa only [FilterValue.lower] using FilterNode.lowerMembers_allOf path 0 members

theorem FilterNode.lower_allOf (path : KeyPath) : (node : FilterNode) →
    AllOf .filters (FilterNode.lower path node)
  | [] => .nil
  | (key, value) :: rest =>
      (FilterValue.lower_allOf (path.child key) value).append (FilterNode.lower_allOf path rest)

theorem FilterNode.lowerMembers_allOf (path : KeyPath) (i : Nat) : (members : List FilterNode) →
    AllOf .filters (FilterNode.lowerMembers path i members)
  | [] => .nil
  | node :: rest =>
      (FilterNode.lower_allOf (path.index i) node).append
        (FilterNode.lowerMembers_allOf path (i + 1) rest)

end

theorem FilterNode.lowerOfRelation_allOf (path : KeyPath) (node : FilterNode) :
    AllOf .populate (FilterNode.lowerOfRelation path node) := by
  intro p hp
  obtain ⟨_, _, rfl⟩ := List.mem_map.mp hp
  rfl

mutual

/-- Whatever is included, with all relations and their filters, is sent as what is included. -/
theorem Populate.lower_allOf (path : KeyPath) : (included : Populate) →
    AllOf .populate (included.lower path)
  | .all => by simpa only [Populate.lower] using AllOf.singleton path.text everyRelation
  | .relation name => by
      simp only [Populate.lower]
      split
      · exact .nil
      · exact .singleton path.text name
  | .relations names => by
      simpa only [Populate.lower] using lowerIndexed_allOf .populate path names
  | .shaped entries => by
      simpa only [Populate.lower] using Populate.lowerRelations_allOf path entries

theorem Populate.lowerRelations_allOf (path : KeyPath) :
    (entries : List (String × RelationPopulate)) →
      AllOf .populate (Populate.lowerRelations path entries)
  | [] => .nil
  | (name, inclusion) :: rest =>
      (RelationPopulate.lower_allOf (path.child name) inclusion).append
        (Populate.lowerRelations_allOf path rest)

theorem RelationPopulate.lower_allOf (path : KeyPath) : (inclusion : RelationPopulate) →
    AllOf .populate (inclusion.lower path)
  | .flag included => by
      simpa only [RelationPopulate.lower] using AllOf.singleton path.text (toString included)
  | .name value => by simpa only [RelationPopulate.lower] using AllOf.singleton path.text value
  | .shape shape => by
      simp only [RelationPopulate.lower]
      split
      · exact .singleton path.text "true"
      · exact PopulateShape.lower_allOf path shape

theorem PopulateShape.lower_allOf (path : KeyPath) : (shape : PopulateShape) →
    AllOf .populate (shape.lower path)
  | .mk fields inner sort conditions => by
      have hf := lowerIndexed_allOf .populate (path.child "fields") fields
      have hi := Populate.lowerOption_allOf (path.child "populate") inner
      have hs := lowerIndexed_allOf .populate (path.child "sort") sort
      simp only [PopulateShape.lower]
      refine ((hf.append hi).append hs).append ?_
      cases conditions with
      | none => exact .nil
      | some node => exact FilterNode.lowerOfRelation_allOf (path.child "filters") node

theorem Populate.lowerOption_allOf (path : KeyPath) : (included : Option Populate) →
    AllOf .populate (Populate.lowerOption path included)
  | none => .nil
  | some value => by
      simpa only [Populate.lowerOption] using Populate.lower_allOf path value

end

/-! ## Intents -/

theorem Pagination.lower_allOf (pagination : Pagination) : AllOf .pagination pagination.lower := by
  intro p hp
  simp only [Pagination.lower, List.mem_filterMap, Option.map_eq_some_iff] at hp
  obtain ⟨_, _, _, _, rfl⟩ := hp
  rfl

theorem lowerText_allOf (category : Category) : (text : Option String) →
    AllOf category (lowerText category text)
  | none => .nil
  | some value => by
      simp only [lowerText]
      split
      · exact .nil
      · exact .singleton category.root value

namespace Intent

variable (i : Intent)

/-- The parameters of the member of an intent that belongs to a category. -/
def lowerOf : Category → Params
  | .filters => FilterNode.lower (KeyPath.ofRoot "filters") (i.filters.getD [])
  | .populate => Populate.lowerOption (KeyPath.ofRoot "populate") i.populate
  | .sort => lowerIndexed .sort (KeyPath.ofRoot "sort") i.sort
  | .pagination => (i.pagination.map Pagination.lower).getD []
  | .fields => lowerIndexed .fields (KeyPath.ofRoot "fields") i.fields
  | .locale => lowerText .locale i.locale
  | .publicationState => lowerText .publicationState i.publicationState
  | .search => lowerText .search i.search

theorem lower_eq_flatMap : i.lower = Category.all.flatMap i.lowerOf := by
  cases h : i.filters <;> cases hp : i.pagination <;>
    simp [lower, lowerOf, Category.all, Category.root, Category.name, FilterNode.lower,
      Params.pushNode_eq, Params.pushOption_eq, h, hp]

theorem lowerOf_allOf : (category : Category) → AllOf category (i.lowerOf category)
  | .filters => FilterNode.lower_allOf _ _
  | .populate => Populate.lowerOption_allOf _ _
  | .sort => lowerIndexed_allOf _ _ _
  | .pagination => by
      cases h : i.pagination with
      | none => simpa [lowerOf, h] using AllOf.nil
      | some pagination => simpa [lowerOf, h] using pagination.lower_allOf
  | .fields => lowerIndexed_allOf _ _ _
  | .locale => lowerText_allOf _ _
  | .publicationState => lowerText_allOf _ _
  | .search => lowerText_allOf _ _

/-- The parameters of a category are those of its member, whatever the other members are. -/
theorem ofCategory_lower (category : Category) :
    i.lower.ofCategory category = i.lowerOf category := by
  have hc : ∀ c, (i.lowerOf c).ofCategory category =
      if c = category then i.lowerOf category else [] := by
    intro c
    split
    · subst c
      exact (i.lowerOf_allOf category).ofCategory_self
    · rename_i hne
      exact (i.lowerOf_allOf c).ofCategory_other hne
  have hf : i.lower.ofCategory category =
      Category.all.flatMap fun c => (i.lowerOf c).ofCategory category := by
    rw [lower_eq_flatMap]
    exact List.filter_flatMap
  rw [hf]
  simp only [hc]
  cases category <;> simp [Category.all]

end Intent

end BracketQuery
