import BracketQuery.Document.Encode
import BracketQuery.Proofs.Json.Document

/-!
Intents are written as readable documents: members that collide are collected, numbers are those of
64 bits, and a double that is not finite is written as null.
-/

namespace BracketQuery

/-! ## Members that may be absent -/

/-- Readable members with some of the names, in their order. -/
structure Json.Among (names : List String) (members : List (String × Json)) : Prop where
  sublist : (members.map Prod.fst).Sublist names
  readable : ∀ member ∈ members, member.2.IsReadable

namespace Json.Among

variable {names names' : List String} {members members' : List (String × Json)}

theorem nil (names : List String) : Among names [] := ⟨List.nil_sublist names, by simp⟩

theorem singleton {name : String} {value : Json} (h : value.IsReadable) :
    Among [name] [(name, value)] :=
  ⟨List.Sublist.refl _, fun _ hm => List.mem_singleton.mp hm ▸ h⟩

theorem append (h : Among names members) (h' : Among names' members') :
    Among (names ++ names') (members ++ members') := by
  refine ⟨?_, List.forall_mem_append.mpr ⟨h.readable, h'.readable⟩⟩
  rw [List.map_append]
  exact h.sublist.append h'.sublist

theorem isReadable (h : Among names members) (hn : names.Nodup) : (object members).IsReadable :=
  isReadable_object.mpr ⟨hn.sublist h.sublist, h.readable⟩

end Json.Among

theorem among_textsMember (name : String) (values : List String) :
    Json.Among [name] (textsMember name values) := by
  unfold textsMember
  split
  · exact .nil _
  · exact .singleton (Json.isReadable_strings values)

theorem among_optionMember {α : Type} (name : String) {encode : α → Json} (value : Option α)
    (h : ∀ a, (encode a).IsReadable) : Json.Among [name] (optionMember name encode value) := by
  cases value with
  | none => exact .nil _
  | some a => exact .singleton (h a)

/-! ## Filter trees -/

theorem Json.isReadable_int64 (value : Int64) :
    (Json.number (.integer value.toInt)).IsReadable := by
  have hl := value.le_toInt
  have hu := value.toInt_lt
  exact ⟨hl, by omega⟩

theorem Scalar.isReadable_toJson (value : Scalar) : value.toJson.IsReadable := by
  cases value with
  | string _ | boolean _ => trivial
  | integer value => exact Json.isReadable_int64 value
  | float value =>
      simp only [toJson]
      split
      · rename_i h
        exact h
      · trivial

theorem Scalar.isReadable_map_toJson (values : List Scalar) :
    (Json.array (values.map toJson)).IsReadable := by
  rw [Json.isReadable_array, List.forall_mem_map]
  exact fun value _ => value.isReadable_toJson

theorem Operand.isReadable_toJson (operand : Operand) : operand.toJson.IsReadable := by
  cases operand with
  | scalar value => exact value.isReadable_toJson
  | list values => exact Scalar.isReadable_map_toJson values

mutual

theorem FilterValue.isReadable_toJson : (value : FilterValue) → value.toJson.IsReadable
  | .operators comparisons => by
      rw [FilterValue.toJson]
      refine Json.isReadable_ofMembers (List.forall_mem_map.mpr fun c _ => ?_)
      exact c.2.isReadable_toJson
  | .nested node => by
      rw [FilterValue.toJson]
      exact Json.isReadable_ofMembers
        ((Json.membersReadable_iff _).mp (FilterNode.membersReadable_toMembers node))
  | .scalar value => value.isReadable_toJson
  | .list values => Scalar.isReadable_map_toJson values
  | .group members => FilterNode.elementsReadable_toElements members

theorem FilterNode.membersReadable_toMembers : (node : FilterNode) →
    Json.MembersReadable (FilterNode.toMembers node)
  | [] => trivial
  | (_, value) :: rest =>
      ⟨FilterValue.isReadable_toJson value, FilterNode.membersReadable_toMembers rest⟩

theorem FilterNode.elementsReadable_toElements : (members : List FilterNode) →
    Json.ElementsReadable (FilterNode.toElements members)
  | [] => trivial
  | node :: rest =>
      ⟨Json.isReadable_ofMembers
          ((Json.membersReadable_iff _).mp (FilterNode.membersReadable_toMembers node)),
        FilterNode.elementsReadable_toElements rest⟩

end

theorem FilterNode.isReadable_toJson (node : FilterNode) : node.toJson.IsReadable :=
  Json.isReadable_ofMembers
    ((Json.membersReadable_iff _).mp (FilterNode.membersReadable_toMembers node))

/-! ## Inclusions -/

mutual

theorem Populate.isReadable_toJson : (populate : Populate) → populate.toJson.IsReadable
  | .all | .relation _ => trivial
  | .relations names => Json.isReadable_strings names
  | .shaped relations => by
      rw [Populate.toJson]
      exact Json.isReadable_ofMembers
        ((Json.membersReadable_iff _).mp (Populate.membersReadable_toMembers relations))

theorem Populate.membersReadable_toMembers :
    (relations : List (String × RelationPopulate)) →
      Json.MembersReadable (Populate.toMembers relations)
  | [] => trivial
  | (_, inclusion) :: rest =>
      ⟨RelationPopulate.isReadable_toJson inclusion, Populate.membersReadable_toMembers rest⟩

theorem RelationPopulate.isReadable_toJson : (inclusion : RelationPopulate) →
    inclusion.toJson.IsReadable
  | .flag _ | .name _ => trivial
  | .shape shape => PopulateShape.isReadable_toJson shape

theorem PopulateShape.isReadable_toJson : (shape : PopulateShape) → shape.toJson.IsReadable
  | .mk fields inner sort filters => by
      rw [PopulateShape.toJson]
      have h := (((among_textsMember "fields" fields).append (Populate.among_toMember inner)).append
        (among_textsMember "sort" sort)).append
          (among_optionMember "filters" filters FilterNode.isReadable_toJson)
      exact h.isReadable (by decide)

theorem Populate.among_toMember : (populate : Option Populate) →
    Json.Among ["populate"] (Populate.toMember populate)
  | none => .nil _
  | some populate => .singleton (Populate.isReadable_toJson populate)

end

/-! ## Intents -/

theorem Pagination.among_members (members : List (String × Option Int64)) :
    Json.Among (members.map Prod.fst) (members.filterMap fun (name, value) =>
      value.map fun n => (name, Json.number (.integer n.toInt))) := by
  induction members with
  | nil => exact .nil _
  | cons member rest ih =>
      obtain ⟨name, value⟩ := member
      cases value with
      | none => exact ⟨ih.sublist.cons _, ih.readable⟩
      | some n => exact (Json.Among.singleton (Json.isReadable_int64 n)).append ih

theorem Pagination.isReadable_toJson (pagination : Pagination) : pagination.toJson.IsReadable := by
  rw [toJson]
  exact (Pagination.among_members pagination.members).isReadable (by simp [members])

/-- The document that an intent is written as can be read. -/
theorem Intent.isReadable_toJson (i : Intent) : i.toJson.IsReadable := by
  have text (name : String) (value : Option String) :
      Json.Among [name] (optionMember name .string value) :=
    among_optionMember name value fun _ => trivial
  have h := (((((((among_optionMember "filters" i.filters FilterNode.isReadable_toJson).append
    (among_optionMember "populate" i.populate Populate.isReadable_toJson)).append
    (among_textsMember "sort" i.sort)).append
    (among_optionMember "pagination" i.pagination Pagination.isReadable_toJson)).append
    (among_textsMember "fields" i.fields)).append (text "locale" i.locale)).append
    (text "publicationState" i.publicationState)).append (text "q" i.search)
  rw [toJson]
  exact h.isReadable (by decide)

end BracketQuery
