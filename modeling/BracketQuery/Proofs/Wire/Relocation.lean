import BracketQuery.Proofs.Wire.Category

/-!
The parameters of a tree at one path and at another differ in the text of the path alone, with which
all keys begin. So a tree pushes, below any path and onto any parameters, what it sends at the empty
path by itself.
-/

namespace BracketQuery

/-- A parameter whose key goes on behind a text. -/
def Param.behind (text : String) (p : Param) : Param := { p with key := text ++ p.key }

/-- A parameter as part of another category. -/
def Param.within (category : Category) (p : Param) : Param := { p with category }

/-! ## Paths that end alike -/

/-- The first path is written as a text and the second path behind it. -/
def KeyPath.Extends (text : String) (path relative : KeyPath) : Prop :=
  path.text = text ++ relative.text

namespace KeyPath.Extends

variable {text : String} {path relative : KeyPath}

theorem child (h : Extends text path relative) (segment : String) :
    Extends text (path.child segment) (relative.child segment) := by
  unfold Extends at h ⊢
  rw [text_child, text_child, h, String.append_assoc]

theorem index (h : Extends text path relative) (i : Nat) :
    Extends text (path.index i) (relative.index i) :=
  h.child (toString i)

theorem ofEmpty (path : KeyPath) : Extends path.text path (ofRoot "") := by
  rw [Extends, text_ofRoot, String.append_empty]

end KeyPath.Extends

variable {text : String} {path relative : KeyPath}

/-! ## Filters -/

theorem lowerIndexed_relocated (h : path.Extends text relative) (category : Category)
    (values : List String) :
    lowerIndexed category path values =
      (lowerIndexed category relative values).map (Param.behind text) := by
  rw [lowerIndexed, lowerIndexed, List.mapIdx_eq_zipIdx_map, List.mapIdx_eq_zipIdx_map,
    List.map_map]
  refine List.map_congr_left fun m _ => ?_
  exact congrArg (Param.mk category · m.1) (h.index m.2)

theorem Operand.lower_relocated (h : path.Extends text relative) (operand : Operand) :
    operand.lower path = (operand.lower relative).map (Param.behind text) := by
  cases operand with
  | scalar value => exact congrArg (fun key => [Param.mk .filters key value.wireText]) h
  | list values => exact lowerIndexed_relocated h .filters (values.map Scalar.wireText)

mutual

theorem FilterValue.lower_relocated {path relative : KeyPath} (h : path.Extends text relative) :
    (value : FilterValue) → value.lower path = (value.lower relative).map (Param.behind text)
  | .operators comparisons => by
      simp only [FilterValue.lower, List.map_flatMap]
      congr 1
      funext c
      exact c.2.lower_relocated (h.child c.1.spelling)
  | .nested node => by
      simpa only [FilterValue.lower] using FilterNode.lower_relocated h node
  | .scalar value => by
      simpa only [FilterValue.lower, Operand.lower] using Operand.lower_relocated h (.scalar value)
  | .list values => by
      simpa only [FilterValue.lower] using
        lowerIndexed_relocated h .filters (values.map Scalar.wireText)
  | .group members => by
      simpa only [FilterValue.lower] using FilterNode.lowerMembers_relocated h 0 members

theorem FilterNode.lower_relocated {path relative : KeyPath} (h : path.Extends text relative) :
    (node : FilterNode) →
      FilterNode.lower path node = (FilterNode.lower relative node).map (Param.behind text)
  | [] => rfl
  | (key, value) :: rest => by
      rw [FilterNode.lower, FilterNode.lower, List.map_append,
        FilterValue.lower_relocated (h.child key) value, FilterNode.lower_relocated h rest]

theorem FilterNode.lowerMembers_relocated {path relative : KeyPath}
    (h : path.Extends text relative) (i : Nat) : (members : List FilterNode) →
      FilterNode.lowerMembers path i members =
        (FilterNode.lowerMembers relative i members).map (Param.behind text)
  | [] => rfl
  | node :: rest => by
      rw [FilterNode.lowerMembers, FilterNode.lowerMembers, List.map_append,
        FilterNode.lower_relocated (h.index i) node,
        FilterNode.lowerMembers_relocated h (i + 1) rest]

end

theorem FilterNode.lowerOfRelation_relocated (h : path.Extends text relative) (node : FilterNode) :
    FilterNode.lowerOfRelation path node =
      (FilterNode.lowerOfRelation relative node).map (Param.behind text) := by
  rw [lowerOfRelation, lowerOfRelation, FilterNode.lower_relocated h, List.map_map, List.map_map]
  rfl

/-! ## Inclusions -/

mutual

theorem Populate.lower_relocated {path relative : KeyPath} (h : path.Extends text relative) :
    (included : Populate) →
      included.lower path = (included.lower relative).map (Param.behind text)
  | .all => by
      simp only [Populate.lower]
      exact congrArg (fun key => [Param.mk .populate key everyRelation]) h
  | .relation name => by
      simp only [Populate.lower]
      split
      · rfl
      · exact congrArg (fun key => [Param.mk .populate key name]) h
  | .relations names => by
      simpa only [Populate.lower] using lowerIndexed_relocated h .populate names
  | .shaped entries => by
      simpa only [Populate.lower] using Populate.lowerRelations_relocated h entries

theorem Populate.lowerRelations_relocated {path relative : KeyPath}
    (h : path.Extends text relative) : (entries : List (String × RelationPopulate)) →
      Populate.lowerRelations path entries =
        (Populate.lowerRelations relative entries).map (Param.behind text)
  | [] => rfl
  | (name, inclusion) :: rest => by
      rw [Populate.lowerRelations, Populate.lowerRelations, List.map_append,
        RelationPopulate.lower_relocated (h.child name) inclusion,
        Populate.lowerRelations_relocated h rest]

theorem RelationPopulate.lower_relocated {path relative : KeyPath}
    (h : path.Extends text relative) : (inclusion : RelationPopulate) →
      inclusion.lower path = (inclusion.lower relative).map (Param.behind text)
  | .flag included => by
      simp only [RelationPopulate.lower]
      exact congrArg (fun key => [Param.mk .populate key (toString included)]) h
  | .name value => by
      simp only [RelationPopulate.lower]
      exact congrArg (fun key => [Param.mk .populate key value]) h
  | .shape shape => by
      simp only [RelationPopulate.lower]
      split
      · exact congrArg (fun key => [Param.mk .populate key "true"]) h
      · exact PopulateShape.lower_relocated h shape

theorem PopulateShape.lower_relocated {path relative : KeyPath} (h : path.Extends text relative) :
    (shape : PopulateShape) → shape.lower path = (shape.lower relative).map (Param.behind text)
  | .mk fields inner sort conditions => by
      have hf := lowerIndexed_relocated (h.child "fields") .populate fields
      have hi := Populate.lowerOption_relocated (h.child "populate") inner
      have hs := lowerIndexed_relocated (h.child "sort") .populate sort
      simp only [PopulateShape.lower, List.map_append, hf, hi, hs]
      congr 1
      cases conditions with
      | none => rfl
      | some node => exact FilterNode.lowerOfRelation_relocated (h.child "filters") node

theorem Populate.lowerOption_relocated {path relative : KeyPath} (h : path.Extends text relative) :
    (included : Option Populate) →
      Populate.lowerOption path included =
        (Populate.lowerOption relative included).map (Param.behind text)
  | none => rfl
  | some value => by
      simpa only [Populate.lowerOption] using Populate.lower_relocated h value

end

/-! ## Nodes and relations one after the other -/

theorem FilterNode.lower_append (path : KeyPath) (first second : FilterNode) :
    FilterNode.lower path (first ++ second) =
      FilterNode.lower path first ++ FilterNode.lower path second := by
  induction first with
  | nil => rfl
  | cons entry rest ih =>
      obtain ⟨key, value⟩ := entry
      rw [List.cons_append, FilterNode.lower, FilterNode.lower, ih, List.append_assoc]

theorem Params.pushRelations_append (path : KeyPath)
    (first second : List (String × RelationPopulate)) : ∀ params : Params,
      params.pushRelations path (first ++ second) =
        (params.pushRelations path first).pushRelations path second := by
  induction first with
  | nil => exact fun _ => rfl
  | cons entry rest ih =>
      intro params
      exact ih (params.pushRelation (path.child entry.1) entry.2)

theorem Params.pushShape_filters (params : Params) (path : KeyPath) (fields sort : List String)
    (inner : Option Populate) (node : FilterNode) :
    params.pushShape path (.mk fields inner sort (some node)) =
      params.pushShape path (.mk fields inner sort none) ++
        (pushNode [] (path.child "filters") node).map (Param.within .populate) := by
  rw [pushNode_eq, List.nil_append, pushShape_eq, pushShape_eq, PopulateShape.lower,
    PopulateShape.lower, List.append_nil, List.append_assoc params]
  rfl

/-- Pushing leaves the parameters that are there in place and appends what the tree pushes at the
empty path onto nothing, with the path before each key. The entries of a node are pushed one after
the other. The filters of a relation are pushed, behind the rest of its shape, as the same node is
at the place of the filters, but as part of what is included. -/
theorem Params.push_appends_below :
    (∀ (node : FilterNode) (path : KeyPath) (params : Params),
      params.pushNode path node =
        params ++ (pushNode [] (KeyPath.ofRoot "") node).map (Param.behind path.text)) ∧
      (∀ (included : Populate) (path : KeyPath) (params : Params),
        params.pushPopulate path included =
          params ++ (pushPopulate [] (KeyPath.ofRoot "") included).map (Param.behind path.text)) ∧
      (∀ (first second : FilterNode) (path : KeyPath) (params : Params),
        params.pushNode path (first ++ second) =
          params ++ pushNode [] path first ++ pushNode [] path second) ∧
      ∀ (path : KeyPath) (params : Params) (before after : List (String × RelationPopulate))
        (relation : String) (fields sort : List String) (inner : Option Populate)
        (node : FilterNode),
        let place := path.child relation
        let alone := pushNode [] (place.child "filters") node
        params.pushPopulate path
            (.shaped (before ++ (relation, .shape (.mk fields inner sort (some node))) :: after)) =
          (((params.pushPopulate path (.shaped before)).pushShape place
              (.mk fields inner sort none)) ++ alone.map (Param.within .populate)).pushPopulate
            path (.shaped after) ∧
          Params.ofCategory alone .filters = alone := by
  refine ⟨fun node path params => ?_, fun included path params => ?_,
    fun first second path params => ?_,
    fun path params before after relation fields sort inner node => ⟨?_, ?_⟩⟩
  · rw [pushNode_eq, pushNode_eq, List.nil_append,
      FilterNode.lower_relocated (KeyPath.Extends.ofEmpty path)]
  · rw [pushPopulate_eq, pushPopulate_eq, List.nil_append,
      Populate.lower_relocated (KeyPath.Extends.ofEmpty path)]
  · rw [pushNode_eq, pushNode_eq, pushNode_eq, FilterNode.lower_append, List.nil_append,
      List.nil_append, List.append_assoc]
  · have hne : (PopulateShape.mk fields inner sort (some node)).isEmpty = false := by
      simp [PopulateShape.isEmpty, PopulateShape.filters]
    simp only [pushPopulate, pushRelations_append, pushRelations, pushRelation, hne,
      Bool.false_eq_true, ↓reduceIte, pushShape_filters]
  · rw [pushNode_eq, List.nil_append]
    exact (FilterNode.lower_allOf _ node).ofCategory_self

end BracketQuery
