import BracketQuery.Proofs.Document.Decoding
import BracketQuery.Proofs.Wire.Category

/-!
What documents send: decoding and lowering taken together, part by part of the document.
-/

namespace BracketQuery

/-! ## Parts that may be absent -/

/-- The parameters of what a comparison compares with, none if it is absent. -/
def Operand.lowerOption (path : KeyPath) : Option Operand → Params
  | some operand => operand.lower path
  | none => []

/-- The parameters of a condition, none if it is absent. -/
def FilterValue.lowerOption (path : KeyPath) : Option FilterValue → Params
  | some value => value.lower path
  | none => []

namespace Json

/-- What a document sends as the operand of an operator. -/
def sendOperand (path : KeyPath) (value : Json) : Params :=
  Operand.lowerOption path (Operand.ofJson? value)

/-- What a document sends as the condition under a key. -/
def sendValue (path : KeyPath) (key : String) (value : Json) : Params :=
  FilterValue.lowerOption path (FilterValue.ofJson? key value).value

/-- What the members of an object send as conditions. -/
def sendMembers (path : KeyPath) (members : List (String × Json)) : Params :=
  FilterNode.lower path (FilterNode.ofMembers members).value

/-- What the elements of a list send as the members of a group, the first of which has the given
place. -/
def sendGroup (path : KeyPath) (i : Nat) (key : String) (elements : List Json) : Params :=
  FilterNode.lowerMembers path i (FilterNode.groupOfJson key elements).value

/-- What the elements of a list send as values. -/
def sendScalars (path : KeyPath) (elements : List Json) : Params :=
  lowerIndexed .filters path ((elements.filterMap Scalar.ofJson?).map Scalar.wireText)

/-! ## Operands -/

theorem sendOperand_of_scalar {value : Json} {scalar : Scalar} (path : KeyPath)
    (h : Scalar.ofJson? value = some scalar) :
    sendOperand path value = [⟨.filters, path.text, scalar.wireText⟩] := by
  cases value with
  | null | array _ | object _ => nomatch h
  | boolean _ | number _ | string _ =>
      cases h
      rfl

/-! ## Conditions -/

@[simp] theorem sendValue_null (path : KeyPath) (key : String) : sendValue path key .null = [] :=
  rfl

theorem lower_comparisonsOf (path : KeyPath) (members : List (String × Json)) :
    (comparisonsOf members).flatMap (fun c => c.2.lower (path.child c.1.spelling)) =
      members.flatMap fun m => m.2.sendOperand (path.child m.1) := by
  induction members with
  | nil => rfl
  | cons member rest ih =>
      simp only [comparisonsOf, List.filterMap_cons, List.flatMap_cons, sendOperand] at ih ⊢
      cases Operand.ofJson? member.2 with
      | none => simpa [Operand.lowerOption] using ih
      | some operand => simp [Operand.lowerOption, ih]

theorem sendValue_object (path : KeyPath) (key : String) (members : List (String × Json)) :
    sendValue path key (.object members) =
      if isOperatorMap members then members.flatMap fun m => m.2.sendOperand (path.child m.1)
      else sendMembers path members := by
  rw [sendValue, FilterValue.value_ofJson?_object]
  split
  · exact lower_comparisonsOf path members
  · rfl

theorem sendValue_array (path : KeyPath) (key : String) (elements : List Json) :
    sendValue path key (.array elements) =
      if IsCombinator key then sendGroup path 0 key elements else sendScalars path elements := by
  rw [sendValue, FilterValue.value_ofJson?_array]
  split <;> rfl

/-- A single value sends the same as a condition and as an operand. -/
theorem sendValue_of_scalar {value : Json} {scalar : Scalar} (path : KeyPath) (key : String)
    (h : Scalar.ofJson? value = some scalar) :
    sendValue path key value = sendOperand path value := by
  cases value with
  | null | array _ | object _ => nomatch h
  | boolean _ | number _ | string _ => rfl

/-! ## Nodes and groups -/

@[simp] theorem sendMembers_nil (path : KeyPath) : sendMembers path [] = [] := rfl

theorem sendMembers_cons (path : KeyPath) (member : String × Json) (rest : List (String × Json)) :
    sendMembers path (member :: rest) =
      sendValue (path.child member.1) member.1 member.2 ++ sendMembers path rest := by
  rw [sendMembers, FilterNode.value_ofMembers_cons, sendValue]
  cases (FilterValue.ofJson? member.1 member.2).value <;> rfl

@[simp] theorem sendGroup_nil (path : KeyPath) (i : Nat) (key : String) :
    sendGroup path i key [] = [] := rfl

theorem sendGroup_object (path : KeyPath) (i : Nat) (key : String)
    (members : List (String × Json)) (rest : List Json) :
    sendGroup path i key (.object members :: rest) =
      sendMembers (path.index i) members ++ sendGroup path (i + 1) key rest := rfl

/-- What a document sends as the conditions of a relation or of an intent. -/
def sendFilters (path : KeyPath) (value : Json) : Params :=
  match (FilterNode.ofJson? value).value with
  | some node => FilterNode.lower path node
  | none => []

/-! ## Inclusions -/

/-- What a document sends as an inclusion. -/
def sendInclusion (path : KeyPath) (value : Json) : Params :=
  Populate.lowerOption path (Populate.ofJson? value).value

/-- What a document sends as the way in which a relation is included. -/
def sendRelation (path : KeyPath) (relation : String) (value : Json) : Params :=
  match (RelationPopulate.ofJson? relation value).value with
  | some inclusion => inclusion.lower path
  | none => []

/-- What the members of an object send as relations. -/
def sendRelations (path : KeyPath) (members : List (String × Json)) : Params :=
  Populate.lowerRelations path (Populate.relationsOfMembers members).value

theorem sendInclusion_string (path : KeyPath) (name : String) :
    sendInclusion path (.string name) = if name = "" then [] else [⟨.populate, path.text, name⟩] := by
  by_cases h : name = "" <;>
    simp [sendInclusion, Populate.ofJson?, Populate.lowerOption, Populate.lower, h]

@[simp] theorem sendRelations_nil (path : KeyPath) : sendRelations path [] = [] := rfl

theorem sendRelations_cons (path : KeyPath) (member : String × Json)
    (rest : List (String × Json)) :
    sendRelations path (member :: rest) =
      sendRelation (path.child member.1) member.1 member.2 ++ sendRelations path rest := by
  simp only [sendRelations, sendRelation, Populate.relationsOfMembers, Traced.value_bind,
    Traced.value_pure]
  cases (RelationPopulate.ofJson? member.1 member.2).value <;> rfl

/-- What the member of a name sends. -/
def sendMember (send : Json → Params) (name : String) (members : List (String × Json)) : Params :=
  match find? name members with
  | some value => send value
  | none => []

end Json

/-- What the members of an object say of a relation. -/
def PopulateShape.ofMembers (members : List (String × Json)) : PopulateShape :=
  .mk (textsOfMember members "fields")
    ((Json.find? "populate" members).bind fun value => (Populate.ofJson? value).value)
    (textsOfMember members "sort")
    ((Json.find? "filters" members).bind fun value => (FilterNode.ofJson? value).value)

theorem PopulateShape.lower_ofMembers (path : KeyPath) (members : List (String × Json)) :
    (PopulateShape.ofMembers members).lower path =
      lowerIndexed .populate (path.child "fields") (textsOfMember members "fields") ++
        Json.sendMember (Json.sendInclusion (path.child "populate")) "populate" members ++
        lowerIndexed .populate (path.child "sort") (textsOfMember members "sort") ++
        (Json.sendMember (Json.sendFilters (path.child "filters")) "filters" members).map
          fun p => { p with category := .populate } := by
  have hp : Json.sendMember (Json.sendInclusion (path.child "populate")) "populate" members =
      Populate.lowerOption (path.child "populate") (PopulateShape.ofMembers members).populate := by
    rw [Json.sendMember, PopulateShape.ofMembers, PopulateShape.populate]
    cases Json.find? "populate" members <;> rfl
  have hf : (Json.sendMember (Json.sendFilters (path.child "filters")) "filters" members).map
      (fun p => { p with category := .populate }) =
        match (PopulateShape.ofMembers members).filters with
        | some node => FilterNode.lowerOfRelation (path.child "filters") node
        | none => [] := by
    rw [Json.sendMember, PopulateShape.ofMembers, PopulateShape.filters]
    cases Json.find? "filters" members with
    | none => rfl
    | some value =>
        simp only [Option.bind_some, Json.sendFilters]
        cases (FilterNode.ofJson? value).value <;> rfl
  rw [hp, hf]
  rfl

theorem Json.sendRelation_object (path : KeyPath) (relation : String)
    (members : List (String × Json)) :
    Json.sendRelation path relation (.object members) =
      if (PopulateShape.ofMembers members).isEmpty then [⟨.populate, path.text, "true"⟩]
      else (PopulateShape.ofMembers members).lower path := by
  rw [Json.sendRelation, RelationPopulate.value_ofJson?_object, Populate.ofMember_eq,
    value_decodeMember]
  rfl

namespace Intent

open Json

/-! ## Intents -/

theorem lowerOf_filters_ofMembers (members : List (String × Json)) :
    (Intent.ofMembers members).value.lowerOf .filters =
      sendMember (sendFilters (KeyPath.ofRoot "filters")) "filters" members := by
  rw [Intent.value_ofMembers, sendMember]
  cases hf : find? "filters" members with
  | none => rfl
  | some value =>
      simp only [lowerOf, Option.bind_some, sendFilters]
      cases (FilterNode.ofJson? value).value <;> rfl

theorem lowerOf_populate_ofMembers (members : List (String × Json)) :
    (Intent.ofMembers members).value.lowerOf .populate =
      sendMember (sendInclusion (KeyPath.ofRoot "populate")) "populate" members := by
  rw [Intent.value_ofMembers, sendMember]
  cases hf : find? "populate" members <;> rfl

end Intent

end BracketQuery
