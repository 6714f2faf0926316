import BracketQuery.Proofs.Document.Regular
import BracketQuery.Proofs.Document.Written

/-!
What comes of an intent that is written as a document and read again. A regular intent comes back
but for comparisons none of whose operators is known: without one, their object is read as conditions
on a related entity, and a list of values under a combinator as a group without members.
-/

namespace BracketQuery

/-- What is compared with, read as the condition under a key. -/
def Operand.asCondition (key : String) : Operand → FilterValue
  | .scalar value => .scalar value
  | .list values => if IsCombinator key then .group [] else .list values

mutual

/-- What a condition is read as after it has been written. -/
def FilterValue.reread : FilterValue → FilterValue
  | .operators comparisons =>
    if comparisons.any fun c => Operator.isKnown c.1.spelling then .operators comparisons
    else .nested (comparisons.map fun c => (c.1.spelling, c.2.asCondition c.1.spelling))
  | .nested node => .nested (FilterNode.reread node)
  | .scalar value => .scalar value
  | .list values => .list values
  | .group members => .group (FilterNode.rereadMembers members)

/-- What a node is read as after it has been written. -/
def FilterNode.reread : FilterNode → FilterNode
  | [] => []
  | (key, value) :: rest => (key, FilterValue.reread value) :: FilterNode.reread rest

def FilterNode.rereadMembers : List FilterNode → List FilterNode
  | [] => []
  | node :: rest => FilterNode.reread node :: FilterNode.rereadMembers rest

end

/-- What an intent is read as after it has been written. -/
def Intent.reread (i : Intent) : Intent := i.mapFilters FilterNode.reread

/-! ## Values and comparisons -/

theorem Integer.toInt64?_toInt (n : Int64) : toInt64? n.toInt = some n := by
  have hl := n.le_toInt
  have hu := n.toInt_lt
  rw [toInt64?, if_pos ⟨hl, hu⟩, Int64.ofInt_toInt]

theorem Scalar.ofJson?_toJson {value : Scalar} (h : value.IsFinite) :
    Scalar.ofJson? value.toJson = some value := by
  cases value with
  | string _ | boolean _ => rfl
  | integer n => simp [toJson, ofJson?, ofNumber, Integer.toInt64?_toInt]
  | float x =>
      have hx : x.isFinite = true := h
      simp [toJson, ofJson?, ofNumber, hx]

theorem Scalar.filterMap_ofJson?_toJson {values : List Scalar}
    (h : ∀ value ∈ values, value.IsFinite) :
    (values.map toJson).filterMap ofJson? = values := by
  induction values with
  | nil => rfl
  | cons value rest ih =>
      obtain ⟨hv, hr⟩ := List.forall_mem_cons.mp h
      rw [List.map_cons, List.filterMap_cons, Scalar.ofJson?_toJson hv, ih hr]

theorem Operand.ofJson?_toJson {operand : Operand} (h : operand.IsFinite) :
    Operand.ofJson? operand.toJson = some operand := by
  cases operand with
  | list values => exact congrArg (some ∘ Operand.list) (Scalar.filterMap_ofJson?_toJson h)
  | scalar value =>
      have hv : Scalar.ofJson? value.toJson = some value := Scalar.ofJson?_toJson h
      cases hj : value.toJson with
      | array _ | object _ => simp [hj, Scalar.ofJson?] at hv
      | _ =>
          rw [hj] at hv
          simp only [Operand.toJson, hj, Operand.ofJson?, hv, Option.map_some]

theorem comparisonsOf_toJson {comparisons : List (Operator × Operand)}
    (h : ∀ c ∈ comparisons, c.1.IsProper ∧ c.2.IsFinite) :
    comparisonsOf (comparisons.map fun c => (c.1.spelling, c.2.toJson)) = comparisons := by
  induction comparisons with
  | nil => rfl
  | cons c rest ih =>
      obtain ⟨⟨hp, hf⟩, hr⟩ := List.forall_mem_cons.mp h
      have hrest := ih hr
      unfold comparisonsOf at hrest ⊢
      rw [List.map_cons, List.filterMap_cons, Operand.ofJson?_toJson hf, hrest]
      simp [Operator.ofSpelling_spelling hp]

/-! ## Comparisons read as conditions -/

theorem FilterValue.ofJson?_scalar (key : String) {value : Scalar} (h : value.IsFinite) :
    (FilterValue.ofJson? key value.toJson).value = some (.scalar value) := by
  have hv := Scalar.ofJson?_toJson h
  cases hj : value.toJson with
  | array _ | object _ | null => simp [hj, Scalar.ofJson?] at hv
  | _ =>
      rw [hj] at hv
      simp only [FilterValue.ofJson?, hv, Option.map_some, Traced.value_pure]

theorem FilterNode.ofJson?_scalar {value : Scalar} :
    (FilterNode.ofJson? value.toJson).value = none := by
  cases value with
  | float x =>
      simp only [Scalar.toJson]
      split <;> rfl
  | _ => rfl

theorem Operand.value_ofJson?_toJson (key : String) {operand : Operand} (h : operand.IsFinite) :
    (FilterValue.ofJson? key operand.toJson).value = some (operand.asCondition key) := by
  cases operand with
  | scalar value => exact FilterValue.ofJson?_scalar key h
  | list values =>
      rw [Operand.toJson, FilterValue.value_ofJson?_array, Operand.asCondition,
        Scalar.filterMap_ofJson?_toJson h, FilterNode.value_groupOfJson]
      have hg : (values.map Scalar.toJson).filterMap
          (fun element => (FilterNode.ofJson? element).value) = [] := by
        rw [List.filterMap_map, List.filterMap_eq_nil_iff]
        exact fun value _ => FilterNode.ofJson?_scalar
      rw [hg]

theorem FilterNode.ofMembers_comparisons {comparisons : List (Operator × Operand)}
    (h : ∀ c ∈ comparisons, c.1.IsProper ∧ c.2.IsFinite) :
    (FilterNode.ofMembers (comparisons.map fun c => (c.1.spelling, c.2.toJson))).value =
      comparisons.map fun c => (c.1.spelling, c.2.asCondition c.1.spelling) := by
  induction comparisons with
  | nil => rfl
  | cons c rest ih =>
      obtain ⟨⟨_, hf⟩, hr⟩ := List.forall_mem_cons.mp h
      rw [List.map_cons, FilterNode.value_ofMembers_cons, Operand.value_ofJson?_toJson _ hf, ih hr]
      rfl

/-! ## Filter trees -/

theorem FilterNode.map_fst_toMembers (node : FilterNode) :
    (FilterNode.toMembers node).map Prod.fst = node.map Prod.fst := by
  induction node with
  | nil => rfl
  | cons entry rest ih => rw [FilterNode.toMembers, List.map_cons, List.map_cons, ih]

theorem FilterNode.ofMembers_toMembers_of_nodup {node : FilterNode}
    (h : (node.map Prod.fst).Nodup) :
    Json.ofMembers (FilterNode.toMembers node) = FilterNode.toMembers node :=
  Json.ofMembers_of_nodup ((FilterNode.map_fst_toMembers node).symm ▸ h)

mutual

theorem FilterValue.value_ofJson?_toJson (key : String) : (value : FilterValue) →
    value.IsRegular key → (FilterValue.ofJson? key value.toJson).value = some value.reread
  | .operators comparisons, ⟨hn, hc⟩ => by
      have hm : ((comparisons.map fun c => (c.1.spelling, c.2.toJson)).map Prod.fst).Nodup := by
        rwa [List.map_map]
      have hk : isOperatorMap (comparisons.map fun c => (c.1.spelling, c.2.toJson)) =
          comparisons.any fun c => Operator.isKnown c.1.spelling := by
        rw [isOperatorMap, List.any_map]
        rfl
      simp only [FilterValue.toJson, FilterValue.reread]
      rw [Json.ofMembers_of_nodup hm, FilterValue.value_ofJson?_object, hk,
        comparisonsOf_toJson hc, FilterNode.ofMembers_comparisons hc]
  | .nested node, ⟨hn, hk⟩ => by
      have hu := ((FilterNode.isRegular_iff node).mp hn).1
      have ho : isOperatorMap (FilterNode.toMembers node) = false := by
        refine Bool.eq_false_iff.mpr fun ht => ?_
        obtain ⟨member, hm, hs⟩ := List.any_eq_true.mp ht
        have hmem := List.mem_map_of_mem (f := Prod.fst) hm
        rw [FilterNode.map_fst_toMembers] at hmem
        obtain ⟨entry, he, hkey⟩ := List.mem_map.mp hmem
        rw [← hkey, hk entry he] at hs
        cases hs
      simp only [FilterValue.toJson, FilterValue.reread]
      rw [FilterNode.ofMembers_toMembers_of_nodup hu, FilterValue.value_ofJson?_object, ho,
        FilterNode.value_ofMembers_toMembers node hn]
      rfl
  | .scalar value, h => FilterValue.ofJson?_scalar key h
  | .list values, ⟨hk, hv⟩ => by
      simp only [FilterValue.toJson, FilterValue.reread]
      rw [FilterValue.value_ofJson?_array, if_neg hk, Scalar.filterMap_ofJson?_toJson hv]
  | .group members, ⟨hk, hm⟩ => by
      simp only [FilterValue.toJson, FilterValue.reread]
      rw [FilterValue.value_ofJson?_array, if_pos hk,
        FilterNode.value_groupOfJson_toElements key members hm]

/-- A regular node that is written and read again. -/
theorem FilterNode.value_ofMembers_toMembers : (node : FilterNode) → FilterNode.IsRegular node →
    (FilterNode.ofMembers (FilterNode.toMembers node)).value = FilterNode.reread node
  | [], _ => rfl
  | (key, value) :: rest, ⟨_, hv, hr⟩ => by
      rw [FilterNode.toMembers, FilterNode.value_ofMembers_cons,
        FilterValue.value_ofJson?_toJson key value hv, FilterNode.value_ofMembers_toMembers rest hr]
      rfl

theorem FilterNode.value_groupOfJson_toElements (key : String) : (members : List FilterNode) →
    FilterNode.AllRegular members →
      (FilterNode.groupOfJson key (FilterNode.toElements members)).value =
        FilterNode.rereadMembers members
  | [], _ => rfl
  | node :: rest, ⟨hn, hr⟩ => by
      have hu := ((FilterNode.isRegular_iff node).mp hn).1
      rw [FilterNode.toElements, FilterNode.value_groupOfJson_cons,
        FilterNode.ofMembers_toMembers_of_nodup hu, FilterNode.value_ofJson?_object,
        FilterNode.value_ofMembers_toMembers node hn,
        FilterNode.value_groupOfJson_toElements key rest hr]
      rfl

end

theorem FilterNode.value_ofJson?_toJson {node : FilterNode} (h : FilterNode.IsRegular node) :
    (FilterNode.ofJson? node.toJson).value = some (FilterNode.reread node) := by
  have hu := ((FilterNode.isRegular_iff node).mp h).1
  rw [FilterNode.toJson, FilterNode.ofMembers_toMembers_of_nodup hu,
    FilterNode.value_ofJson?_object, FilterNode.value_ofMembers_toMembers node h]

/-! ## Members that may be absent -/

theorem Json.find?_textsMember (name name' : String) (values : List String) :
    find? name (textsMember name' values) =
      if name' = name ∧ values ≠ [] then some (strings values) else none := by
  cases values <;> simp [textsMember, find?_cons]

theorem Json.find?_optionMember {α : Type} (name name' : String) (encode : α → Json)
    (value : Option α) :
    find? name (optionMember name' encode value) =
      if name' = name then value.map encode else none := by
  cases value <;> simp [optionMember, find?_cons]

theorem textsOfJson_strings (values : List String) : textsOfJson (Json.strings values) = values := by
  induction values with
  | nil => rfl
  | cons value rest ih =>
      simp only [Json.strings, textsOfJson, List.map_cons] at ih ⊢
      rw [List.filterMap_cons, ih]
      rfl

theorem Populate.toMember_eq (populate : Option Populate) :
    Populate.toMember populate = optionMember "populate" Populate.toJson populate := by
  cases populate <;> rfl

theorem textsOfMember_eq_of_find? {members : List (String × Json)} {name : String}
    (values : List String) (h : Json.find? name members =
      if values ≠ [] then some (Json.strings values) else none) :
    textsOfMember members name = values := by
  unfold textsOfMember
  rw [h]
  cases values with
  | nil => rfl
  | cons value rest =>
      rw [if_pos (List.cons_ne_nil value rest), Option.map_some, textsOfJson_strings,
        Option.getD_some]

theorem value_bind_map_toJson {filters : Option FilterNode}
    (h : ∀ node ∈ filters.toList, FilterNode.IsRegular node) :
    ((filters.map FilterNode.toJson).bind fun value => (FilterNode.ofJson? value).value) =
      filters.map FilterNode.reread := by
  cases filters with
  | none => rfl
  | some node =>
      have hn : FilterNode.IsRegular node := h node List.mem_cons_self
      rw [Option.map_some, Option.bind_some, FilterNode.value_ofJson?_toJson hn, Option.map_some]

/-! ## Inclusions -/

theorem Populate.map_fst_toMembers (relations : List (String × RelationPopulate)) :
    (Populate.toMembers relations).map Prod.fst = relations.map Prod.fst := by
  induction relations with
  | nil => rfl
  | cons entry rest ih => rw [Populate.toMembers, List.map_cons, List.map_cons, ih]

mutual

theorem Populate.value_ofJson?_toJson : (populate : Populate) → populate.IsNamed →
    (∀ node ∈ populate.filterNodes, FilterNode.IsRegular node) →
      (Populate.ofJson? populate.toJson).value = some (populate.mapFilters FilterNode.reread)
  | .all, _, _ => rfl
  | .relation name, hn, _ => by
      have hne : name ≠ "" := hn
      simp [Populate.toJson, Populate.ofJson?, Populate.mapFilters, hne]
  | .relations names, _, _ => by
      have ht := textsOfJson_strings names
      simp only [Json.strings, textsOfJson] at ht
      simp only [Populate.toJson, Json.strings, Populate.ofJson?, Populate.mapFilters,
        Traced.value_pure, ht]
  | .shaped relations, hn, hnodes => by
      have hu : ((Populate.toMembers relations).map Prod.fst).Nodup := by
        rw [Populate.map_fst_toMembers]
        exact ((Populate.allNamed_iff relations).mp hn).1
      simp only [Populate.toJson, Populate.mapFilters, Populate.ofJson?, Traced.value_bind,
        Traced.value_pure]
      rw [Json.ofMembers_of_nodup hu, Populate.value_relationsOfMembers_toMembers relations hn hnodes]

theorem Populate.value_relationsOfMembers_toMembers :
    (relations : List (String × RelationPopulate)) → Populate.AllNamed relations →
      (∀ node ∈ Populate.filterNodesOfRelations relations, FilterNode.IsRegular node) →
        (Populate.relationsOfMembers (Populate.toMembers relations)).value =
          Populate.mapFiltersOfRelations FilterNode.reread relations
  | [], _, _ => rfl
  | (name, inclusion) :: rest, ⟨_, hi, hr⟩, hnodes => by
      obtain ⟨hni, hnr⟩ := List.forall_mem_append.mp hnodes
      simp only [Populate.toMembers, Populate.relationsOfMembers, Traced.value_bind,
        Traced.value_pure]
      rw [RelationPopulate.value_ofJson?_toJson name inclusion hi hni,
        Populate.value_relationsOfMembers_toMembers rest hr hnr]
      rfl

theorem RelationPopulate.value_ofJson?_toJson (name : String) : (inclusion : RelationPopulate) →
    inclusion.IsNamed → (∀ node ∈ inclusion.filterNodes, FilterNode.IsRegular node) →
      (RelationPopulate.ofJson? name inclusion.toJson).value =
        some (inclusion.mapFilters FilterNode.reread)
  | .flag _, _, _ | .name _, _, _ => rfl
  | .shape shape, hn, hnodes => PopulateShape.value_ofJson?_toJson name shape hn hnodes

theorem PopulateShape.value_ofJson?_toJson (name : String) : (shape : PopulateShape) →
    shape.IsNamed → (∀ node ∈ shape.filterNodes, FilterNode.IsRegular node) →
      (RelationPopulate.ofJson? name shape.toJson).value =
        some (.shape (shape.mapFilters FilterNode.reread))
  | .mk fields inner sort filters, hn, hnodes => by
      obtain ⟨hni, hnf⟩ := List.forall_mem_append.mp hnodes
      have hi := Populate.value_ofJson?_toJson_option inner hn hni
      have hf := value_bind_map_toJson hnf
      rw [PopulateShape.toJson, RelationPopulate.value_ofJson?_object, Populate.ofMember_eq,
        value_decodeMember]
      rw [textsOfMember_eq_of_find? fields, textsOfMember_eq_of_find? sort]
      · simp [Populate.toMember_eq, Json.find?_append, Json.find?_textsMember,
          Json.find?_optionMember, hi, hf, PopulateShape.mapFilters]
      · simp [Populate.toMember_eq, Json.find?_append, Json.find?_textsMember,
          Json.find?_optionMember]
      · simp [Populate.toMember_eq, Json.find?_append, Json.find?_textsMember,
          Json.find?_optionMember]

theorem Populate.value_ofJson?_toJson_option : (populate : Option Populate) →
    Populate.OptionNamed populate →
      (∀ node ∈ Populate.filterNodesOfOption populate, FilterNode.IsRegular node) →
        ((populate.map Populate.toJson).bind fun value => (Populate.ofJson? value).value) =
          Populate.mapFiltersOfOption FilterNode.reread populate
  | none, _, _ => rfl
  | some populate, hn, hnodes => Populate.value_ofJson?_toJson populate hn hnodes

end

/-! ## Intents -/

theorem Pagination.ofJson?_toJson {pagination : Pagination} (h : pagination ≠ Pagination.empty) :
    Pagination.ofJson? pagination.toJson = some pagination := by
  have hi (n : Int64) : integerOfJson? (.number (.integer n.toInt)) = some n := by
    simp [integerOfJson?, Integer.toInt64?_toInt]
  obtain ⟨page, pageSize, start, limit⟩ := pagination
  cases page <;> cases pageSize <;> cases start <;> cases limit <;>
    simp_all [Pagination.ofJson?, Pagination.toJson, Pagination.members, Json.find?_cons,
      Pagination.isEmpty, Pagination.empty]

/-- A regular intent that is written and read again. -/
theorem Intent.value_ofJson?_toJson {i : Intent} (h : i.IsRegular) :
    (Intent.ofJson? i.toJson).map Traced.value = .ok i.reread := by
  obtain ⟨filters, populate, sort, pagination, fields, locale, publicationState, search⟩ := i
  obtain ⟨hnodes, hnamed, hpage⟩ := h
  obtain ⟨hnf, hnp⟩ := List.forall_mem_append.mp hnodes
  have hf := value_bind_map_toJson hnf
  have hp := Populate.value_ofJson?_toJson_option populate hnamed hnp
  have hg : (pagination.map Pagination.toJson).bind Pagination.ofJson? = pagination := by
    cases pagination with
    | none => rfl
    | some p => exact Pagination.ofJson?_toJson fun he => hpage (he ▸ rfl)
  have ht (value : Option String) : (value.map Json.string).bind textOfJson? = value := by
    cases value <;> rfl
  rw [Intent.toJson, Intent.value_ofJson?_object, Intent.value_ofMembers]
  rw [textsOfMember_eq_of_find? sort, textsOfMember_eq_of_find? fields]
  · simp [textOfMember?, Json.find?_append, Json.find?_textsMember, Json.find?_optionMember,
      Intent.reread, Intent.mapFilters, hf, hp, hg, ht]
  · simp [Json.find?_append, Json.find?_textsMember, Json.find?_optionMember]
  · simp [Json.find?_append, Json.find?_textsMember, Json.find?_optionMember]

end BracketQuery
