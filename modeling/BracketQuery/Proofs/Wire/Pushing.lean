import BracketQuery.Wire.Lowering

/-!
Pushing is append-only: what pushing a tree adds to parameters are the parameters of the tree by
themselves, whatever was there before.
-/

namespace BracketQuery.Params

theorem foldl_push {α : Type} (param : α → Param) (xs : List α) (params : Params) :
    xs.foldl (fun params x => params.push (param x).category (param x).key (param x).value) params =
      params ++ xs.map param := by
  simp only [push]
  rw [List.foldl_append_eq_append, ← List.flatMap_def, List.map_eq_flatMap]

theorem pushIndexed_eq (params : Params) (category : Category) (path : KeyPath)
    (values : List String) :
    params.pushIndexed category path values = params ++ lowerIndexed category path values := by
  rw [lowerIndexed, List.mapIdx_eq_zipIdx_map]
  exact foldl_push (fun m : String × Nat => ⟨category, (path.index m.2).text, m.1⟩) values.zipIdx
    params

/-! ## Filters -/

theorem pushOperand_eq (params : Params) (path : KeyPath) (operand : Operand) :
    params.pushOperand path operand = params ++ operand.lower path := by
  cases operand with
  | scalar value => rfl
  | list values => exact pushIndexed_eq params .filters path (values.map Scalar.wireText)

theorem pushComparisons_eq (path : KeyPath) (comparisons : List (Operator × Operand)) :
    ∀ params : Params,
      comparisons.foldl (fun params c => params.pushOperand (path.child c.1.spelling) c.2) params =
        params ++ comparisons.flatMap fun c => c.2.lower (path.child c.1.spelling) := by
  induction comparisons with
  | nil => simp
  | cons c rest ih =>
      intro params
      rw [List.foldl_cons, ih, pushOperand_eq, List.append_assoc, List.flatMap_cons]

mutual

theorem pushCondition_eq (path : KeyPath) : (value : FilterValue) → (params : Params) →
    params.pushCondition path value = params ++ value.lower path
  | .operators comparisons, params => by
      simpa only [pushCondition, FilterValue.lower] using
        pushComparisons_eq path comparisons params
  | .nested node, params => by
      simpa only [pushCondition, FilterValue.lower] using pushNode_eq path node params
  | .scalar _, _ => by simp only [pushCondition, FilterValue.lower, push]
  | .list values, params => by
      simpa only [pushCondition, FilterValue.lower] using
        pushIndexed_eq params .filters path (values.map Scalar.wireText)
  | .group members, params => by
      simpa only [pushCondition, FilterValue.lower] using pushMembers_eq path 0 members params

theorem pushNode_eq (path : KeyPath) : (node : FilterNode) → (params : Params) →
    params.pushNode path node = params ++ FilterNode.lower path node
  | [], params => by simp only [pushNode, FilterNode.lower, List.append_nil]
  | (key, value) :: rest, params => by
      rw [pushNode, pushNode_eq path rest, pushCondition_eq (path.child key) value,
        FilterNode.lower, List.append_assoc]

theorem pushMembers_eq (path : KeyPath) (i : Nat) : (members : List FilterNode) →
    (params : Params) →
      params.pushMembers path i members = params ++ FilterNode.lowerMembers path i members
  | [], params => by simp only [pushMembers, FilterNode.lowerMembers, List.append_nil]
  | node :: rest, params => by
      rw [pushMembers, pushMembers_eq path (i + 1) rest, pushNode_eq (path.index i) node,
        FilterNode.lowerMembers, List.append_assoc]

end

/-! ## Inclusions -/

theorem pushOfRelation_eq (params : Params) (path : KeyPath) (node : FilterNode) :
    params.pushOfRelation path node = params ++ FilterNode.lowerOfRelation path node :=
  foldl_push (fun p : Param => { p with category := .populate }) (FilterNode.lower path node) params

mutual

theorem pushPopulate_eq (path : KeyPath) : (included : Populate) → (params : Params) →
    params.pushPopulate path included = params ++ included.lower path
  | .all, _ => by simp only [pushPopulate, Populate.lower, push]
  | .relation name, params => by
      simp only [pushPopulate, Populate.lower]
      split
      · rw [List.append_nil]
      · rfl
  | .relations names, params => by
      simpa only [pushPopulate, Populate.lower] using pushIndexed_eq params .populate path names
  | .shaped entries, params => by
      simpa only [pushPopulate, Populate.lower] using pushRelations_eq path entries params

theorem pushRelations_eq (path : KeyPath) : (entries : List (String × RelationPopulate)) →
    (params : Params) →
      params.pushRelations path entries = params ++ Populate.lowerRelations path entries
  | [], params => by simp only [pushRelations, Populate.lowerRelations, List.append_nil]
  | (name, inclusion) :: rest, params => by
      rw [pushRelations, pushRelations_eq path rest, pushRelation_eq (path.child name) inclusion,
        Populate.lowerRelations, List.append_assoc]

theorem pushRelation_eq (path : KeyPath) : (inclusion : RelationPopulate) → (params : Params) →
    params.pushRelation path inclusion = params ++ inclusion.lower path
  | .flag _, _ | .name _, _ => by simp only [pushRelation, RelationPopulate.lower, push]
  | .shape shape, params => by
      simp only [pushRelation, RelationPopulate.lower]
      split
      · rfl
      · exact pushShape_eq path shape params

theorem pushShape_eq (path : KeyPath) : (shape : PopulateShape) → (params : Params) →
    params.pushShape path shape = params ++ shape.lower path
  | .mk fields inner sort conditions, params => by
      have hi := pushOption_eq (path.child "populate") inner
      cases conditions with
      | none =>
          simp only [pushShape, PopulateShape.lower, pushIndexed_eq, hi, List.append_assoc,
            List.append_nil]
      | some node =>
          simp only [pushShape, PopulateShape.lower, pushIndexed_eq, pushOfRelation_eq, hi,
            List.append_assoc]

theorem pushOption_eq (path : KeyPath) : (included : Option Populate) → (params : Params) →
    params.pushOption path included = params ++ Populate.lowerOption path included
  | none, params => by simp only [pushOption, Populate.lowerOption, List.append_nil]
  | some value, params => by
      simpa only [pushOption, Populate.lowerOption] using pushPopulate_eq path value params

end

end BracketQuery.Params
