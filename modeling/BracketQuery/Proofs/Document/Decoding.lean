import BracketQuery.Document.Decode
import BracketQuery.Proofs.Json.Document

/-!
What decoding gives, apart from what it notes: the parts of an object and of a list are decoded one
by one, and those that give nothing are passed over.
-/

namespace BracketQuery

/-- A key under which a list holds the nodes of a group. -/
abbrev IsCombinator (key : String) : Prop := key = allOfKey ∨ key = anyOfKey

/-! ## Comparisons -/

theorem Scalar.value_listOfJson (field : String) (elements : List Json) :
    (Scalar.listOfJson field elements).value = elements.filterMap Scalar.ofJson? := by
  simp only [listOfJson, Traced.value_filterMap]
  congr 1
  funext element
  cases Scalar.ofJson? element <;> rfl

/-- What a document gives to compare with. -/
def Operand.ofJson? : Json → Option Operand
  | .array elements => some (.list (elements.filterMap Scalar.ofJson?))
  | .object _ => none
  | value => (Scalar.ofJson? value).map .scalar

theorem value_comparisonOfJson? (field : String) (member : String × Json) :
    (comparisonOfJson? field member).value =
      (Operand.ofJson? member.2).map (Operator.ofSpelling member.1, ·) := by
  obtain ⟨name, value⟩ := member
  cases value with
  | array elements => simp [comparisonOfJson?, Operand.ofJson?, Scalar.value_listOfJson]
  | object members => simp [comparisonOfJson?, Operand.ofJson?]
  | _ => simp [comparisonOfJson?, Operand.ofJson?, Scalar.ofJson?]

/-- The comparisons that the members of an object make. -/
def comparisonsOf (members : List (String × Json)) : List (Operator × Operand) :=
  members.filterMap fun m => (Operand.ofJson? m.2).map (Operator.ofSpelling m.1, ·)

/-! ## Filter trees -/

theorem FilterValue.value_ofJson?_object (key : String) (members : List (String × Json)) :
    (FilterValue.ofJson? key (.object members)).value =
      some (if isOperatorMap members then .operators (comparisonsOf members)
        else .nested (FilterNode.ofMembers members).value) := by
  simp only [FilterValue.ofJson?]
  split <;> simp [comparisonsOf, value_comparisonOfJson?]

theorem FilterValue.value_ofJson?_array (key : String) (elements : List Json) :
    (FilterValue.ofJson? key (.array elements)).value =
      some (if IsCombinator key then .group (FilterNode.groupOfJson key elements).value
        else .list (elements.filterMap Scalar.ofJson?)) := by
  simp only [FilterValue.ofJson?]
  split <;> simp [Scalar.value_listOfJson]

theorem FilterNode.value_ofMembers_cons (member : String × Json) (rest : List (String × Json)) :
    (FilterNode.ofMembers (member :: rest)).value =
      ((FilterValue.ofJson? member.1 member.2).value.map (member.1, ·)).toList ++
        (FilterNode.ofMembers rest).value := by
  simp only [FilterNode.ofMembers, Traced.value_bind, Traced.value_pure]
  cases (FilterValue.ofJson? member.1 member.2).value <;> rfl

theorem FilterNode.value_ofMembers (members : List (String × Json)) :
    (FilterNode.ofMembers members).value =
      members.filterMap fun m => (FilterValue.ofJson? m.1 m.2).value.map (m.1, ·) := by
  induction members with
  | nil => rfl
  | cons member rest ih =>
      rw [FilterNode.value_ofMembers_cons, ih, List.filterMap_cons]
      cases (FilterValue.ofJson? member.1 member.2).value <;> rfl

theorem FilterNode.value_groupOfJson_cons (key : String) (element : Json) (rest : List Json) :
    (FilterNode.groupOfJson key (element :: rest)).value =
      (FilterNode.ofJson? element).value.toList ++ (FilterNode.groupOfJson key rest).value := by
  cases element <;> simp [FilterNode.groupOfJson, FilterNode.ofJson?]

theorem FilterNode.value_groupOfJson (key : String) (elements : List Json) :
    (FilterNode.groupOfJson key elements).value =
      elements.filterMap fun element => (FilterNode.ofJson? element).value := by
  induction elements with
  | nil => rfl
  | cons element rest ih =>
      rw [FilterNode.value_groupOfJson_cons, ih, List.filterMap_cons]
      cases (FilterNode.ofJson? element).value <;> rfl

theorem FilterNode.value_ofJson?_object (members : List (String × Json)) :
    (FilterNode.ofJson? (.object members)).value = some (FilterNode.ofMembers members).value := by
  simp [FilterNode.ofJson?]

/-! ## Inclusions -/

theorem value_decodeMember {α : Type} (members : List (String × Json)) (name : String)
    (decode : Json → Decoded (Option α)) :
    (decodeMember members name decode).value =
      (Json.find? name members).bind fun value => (decode value).value := by
  unfold decodeMember
  cases Json.find? name members <;> rfl

theorem Populate.ofMember_eq (members : List (String × Json)) :
    Populate.ofMember members = decodeMember members "populate" Populate.ofJson? := by
  induction members with
  | nil => rfl
  | cons member rest ih =>
      simp only [Populate.ofMember, decodeMember, Json.find?_cons]
      split
      · rfl
      · exact ih

theorem Populate.value_relationsOfMembers (members : List (String × Json)) :
    (Populate.relationsOfMembers members).value =
      members.filterMap fun m => (RelationPopulate.ofJson? m.1 m.2).value.map (m.1, ·) := by
  induction members with
  | nil => rfl
  | cons member rest ih =>
      simp only [Populate.relationsOfMembers, Traced.value_bind, Traced.value_pure, ih,
        List.filterMap_cons]
      cases (RelationPopulate.ofJson? member.1 member.2).value <;> rfl

theorem RelationPopulate.value_ofJson?_object (relation : String)
    (members : List (String × Json)) :
    (RelationPopulate.ofJson? relation (.object members)).value =
      some (.shape (.mk (textsOfMember members "fields") (Populate.ofMember members).value
        (textsOfMember members "sort")
        ((Json.find? "filters" members).bind fun value => (FilterNode.ofJson? value).value))) := by
  simp [RelationPopulate.ofJson?, value_decodeMember]

/-! ## Intents -/

theorem Intent.value_ofMembers (members : List (String × Json)) :
    (Intent.ofMembers members).value = {
      filters := (Json.find? "filters" members).bind fun value => (FilterNode.ofJson? value).value
      populate := (Json.find? "populate" members).bind fun value => (Populate.ofJson? value).value
      sort := textsOfMember members "sort"
      pagination := (Json.find? "pagination" members).bind Pagination.ofJson?
      fields := textsOfMember members "fields"
      locale := textOfMember? members "locale"
      publicationState := textOfMember? members "publicationState"
      search := textOfMember? members "q" } := by
  simp [Intent.ofMembers, value_decodeMember]

theorem Intent.value_ofJson?_object (members : List (String × Json)) :
    (Intent.ofJson? (.object members)).map Traced.value = .ok (Intent.ofMembers members).value :=
  rfl

end BracketQuery
