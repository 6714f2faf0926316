import BracketQuery.Proofs.Document.Leaves
import Mathlib.Logic.Relation

/-!
Where the order of members counts. An intent, a pagination and what is said of a relation are read by
looking up the members that they know, so that the order of the members does not count there, nor do
unknown ones. Conditions and relations are read member by member, and stay in their order; the names
that are known elsewhere are names of fields and relations there.
-/

namespace BracketQuery

open Json

/-! ## Objects that are looked up -/

/-- Two objects have the same members of known names, in whatever order. Each may have others. -/
structure Json.Rearranged (known : List String) (members members' : List (String × Json)) :
    Prop where
  nodup : (members.map Prod.fst).Nodup
  nodup' : (members'.map Prod.fst).Nodup
  perm : (members.filter fun m => m.1 ∈ known).Perm (members'.filter fun m => m.1 ∈ known)

/-- The names of the members of a pagination. -/
def Pagination.keys : List String := ["page", "pageSize", "start", "limit"]

/-- The value of a relation with one object rearranged that says what to include of a relation: of
this one, or of one that is included of it. -/
inductive RelationStep : Json → Json → Prop where
  | shape {members members' : List (String × Json)} (h : Rearranged shapeKeys members members') :
      RelationStep (.object members) (.object members')
  | nested (shape : Slot (String × Json)) (relations : MemberSlot) {value value' : Json}
      (h : RelationStep value value') :
      RelationStep (.object (shape.fill ("populate", .object (relations.members value))))
        (.object (shape.fill ("populate", .object (relations.members value'))))

/-- The members of a document with one object rearranged that is looked up. -/
inductive DocumentStep : List (String × Json) → List (String × Json) → Prop where
  | intent {members members' : List (String × Json)} (h : Rearranged Intent.keys members members') :
      DocumentStep members members'
  | pagination (document : Slot (String × Json)) {members members' : List (String × Json)}
      (h : Rearranged Pagination.keys members members') :
      DocumentStep (document.fill ("pagination", .object members))
        (document.fill ("pagination", .object members'))
  | populate (document : Slot (String × Json)) (relations : MemberSlot) {value value' : Json}
      (h : RelationStep value value') :
      DocumentStep (document.fill ("populate", .object (relations.members value)))
        (document.fill ("populate", .object (relations.members value')))

/-- Documents that differ only by the order of members where it does not count, and by unknown
members there. -/
def DocumentsRearranged : List (String × Json) → List (String × Json) → Prop :=
  Relation.ReflTransGen DocumentStep

variable {members members' : List (String × Json)} {value value' : Json} {name : String}

/-! ## Look-up -/

theorem Json.find?_eq_some_iff_mem (h : (members.map Prod.fst).Nodup) :
    find? name members = some value ↔ (name, value) ∈ members := by
  induction members with
  | nil => simp
  | cons member rest ih =>
      obtain ⟨hm, hr⟩ := List.nodup_cons.mp h
      rw [find?_cons, List.mem_cons]
      by_cases hn : member.1 = name
      · have hnot : (name, value) ∉ rest := fun hv => hm (hn ▸ List.mem_map_of_mem hv)
        subst hn
        simp [hnot, Prod.ext_iff, eq_comm]
      · have hne : (name, value) ≠ member := fun he => hn (he ▸ rfl)
        simp [hn, hne, ih hr]

namespace Json.Rearranged

variable {known : List String}

theorem find?_eq (h : Rearranged known members members') (hk : name ∈ known) :
    find? name members = find? name members' := by
  apply Option.ext
  intro value
  have hmem := h.perm.mem_iff (a := (name, value))
  simp only [List.mem_filter, hk, decide_true, and_true] at hmem
  rw [find?_eq_some_iff_mem h.nodup, find?_eq_some_iff_mem h.nodup', hmem]

theorem textsOfMember_eq (h : Rearranged known members members') (hk : name ∈ known) :
    textsOfMember members name = textsOfMember members' name := by
  rw [textsOfMember, h.find?_eq hk, textsOfMember]

theorem textOfMember?_eq (h : Rearranged known members members') (hk : name ∈ known) :
    textOfMember? members name = textOfMember? members' name := by
  rw [textOfMember?, h.find?_eq hk, textOfMember?]

end Json.Rearranged

/-- A member may take another value that is decoded to the same. -/
theorem Json.bind_find?_fill {α : Type} (slot : Slot (String × Json)) (name other : String)
    (f : Json → Option α) (h : f value = f value') :
    (find? other (slot.fill (name, value))).bind f =
      (find? other (slot.fill (name, value'))).bind f := by
  simp only [Slot.fill, find?_append, find?_cons]
  cases find? other slot.before with
  | some _ => rfl
  | none =>
      split
      · exact h
      · rfl

/-! ## Inclusions -/

theorem PopulateShape.ofMembers_eq (h : Rearranged shapeKeys members members') :
    PopulateShape.ofMembers members = PopulateShape.ofMembers members' := by
  simp only [PopulateShape.ofMembers]
  rw [h.textsOfMember_eq (by decide), h.textsOfMember_eq (by decide), h.find?_eq (by decide),
    h.find?_eq (by decide)]

theorem RelationPopulate.value_ofJson?_shape (relation : String) (members : List (String × Json)) :
    (RelationPopulate.ofJson? relation (.object members)).value =
      some (.shape (PopulateShape.ofMembers members)) := by
  rw [RelationPopulate.value_ofJson?_object, Populate.ofMember_eq, value_decodeMember]
  rfl

theorem Populate.value_ofJson?_relations_eq (relations : MemberSlot)
    (h : ∀ relation, (RelationPopulate.ofJson? relation value).value =
      (RelationPopulate.ofJson? relation value').value) :
    (Populate.ofJson? (.object (relations.members value))).value =
      (Populate.ofJson? (.object (relations.members value'))).value := by
  simp only [Populate.ofJson?, Traced.value_bind, Traced.value_pure,
    Populate.value_relationsOfMembers, MemberSlot.members, Slot.fill, List.filterMap_append,
    List.filterMap_cons, h]

theorem RelationStep.value_eq (h : RelationStep value value') (relation : String) :
    (RelationPopulate.ofJson? relation value).value =
      (RelationPopulate.ofJson? relation value').value := by
  induction h generalizing relation with
  | shape h =>
      rw [RelationPopulate.value_ofJson?_shape, RelationPopulate.value_ofJson?_shape,
        PopulateShape.ofMembers_eq h]
  | nested shape relations _ ih =>
      have hp := Json.bind_find?_fill shape "populate" "populate"
        (fun value => (Populate.ofJson? value).value)
        (Populate.value_ofJson?_relations_eq relations ih)
      rw [RelationPopulate.value_ofJson?_shape, RelationPopulate.value_ofJson?_shape]
      simp (disch := decide) only [PopulateShape.ofMembers, textsOfMember_fill_of_ne,
        find?_fill_of_ne, hp]

/-! ## Paginations -/

theorem Pagination.ofJson?_eq (h : Rearranged Pagination.keys members members') :
    Pagination.ofJson? (.object members) = Pagination.ofJson? (.object members') := by
  simp only [Pagination.ofJson?]
  rw [h.find?_eq (by decide), h.find?_eq (by decide), h.find?_eq (by decide),
    h.find?_eq (by decide)]

/-! ## Intents -/

theorem DocumentStep.value_eq (h : DocumentStep members members') :
    (Intent.ofMembers members).value = (Intent.ofMembers members').value := by
  rw [Intent.value_ofMembers, Intent.value_ofMembers]
  cases h with
  | intent h =>
      simp (disch := decide) only [h.find?_eq, h.textsOfMember_eq, h.textOfMember?_eq]
  | pagination document h =>
      have hp := Json.bind_find?_fill document "pagination" "pagination" Pagination.ofJson?
        (Pagination.ofJson?_eq h)
      simp (disch := decide) only [textsOfMember_fill_of_ne, textOfMember?, find?_fill_of_ne, hp]
  | populate document relations h =>
      have hp := Json.bind_find?_fill document "populate" "populate"
        (fun value => (Populate.ofJson? value).value)
        (Populate.value_ofJson?_relations_eq relations h.value_eq)
      simp (disch := decide) only [textsOfMember_fill_of_ne, textOfMember?, find?_fill_of_ne, hp]

theorem DocumentsRearranged.value_eq (h : DocumentsRearranged members members') :
    (Intent.ofMembers members).value = (Intent.ofMembers members').value := by
  induction h with
  | refl => rfl
  | tail _ hstep ih => exact ih.trans hstep.value_eq

/-! ## Objects that are read in order -/

theorem map_fst_filterMap {α : Type} (f : String × Json → Option α)
    (members : List (String × Json)) :
    (members.filterMap fun m => (f m).map (m.1, ·)).map Prod.fst =
      (members.filter fun m => (f m).isSome).map Prod.fst := by
  induction members with
  | nil => rfl
  | cons member rest ih => cases h : f member <;> simp [h, ih]

theorem FilterValue.isSome_ofJson? (key : String) (value : Json) :
    (FilterValue.ofJson? key value).value.isSome = decide (value.kind ≠ "null") := by
  cases value with
  | array elements => rw [FilterValue.value_ofJson?_array]; rfl
  | object members => rw [FilterValue.value_ofJson?_object]; rfl
  | _ => rfl

theorem RelationPopulate.isSome_ofJson? (relation : String) (value : Json) :
    (RelationPopulate.ofJson? relation value).value.isSome =
      decide (value.kind ∈ ["boolean", "string", "object"]) := by
  cases value with
  | object members => rw [RelationPopulate.value_ofJson?_shape]; rfl
  | _ => rfl

theorem FilterNode.map_fst_ofMembers (members : List (String × Json)) :
    (FilterNode.ofMembers members).value.map Prod.fst =
      (members.filter fun m => m.2.kind ≠ "null").map Prod.fst := by
  rw [FilterNode.value_ofMembers, map_fst_filterMap]
  simp only [FilterValue.isSome_ofJson?]

theorem Populate.map_fst_relationsOfMembers (members : List (String × Json)) :
    (Populate.relationsOfMembers members).value.map Prod.fst =
      (members.filter fun m => m.2.kind ∈ ["boolean", "string", "object"]).map Prod.fst := by
  rw [Populate.value_relationsOfMembers, map_fst_filterMap]
  simp only [RelationPopulate.isSome_ofJson?]

/-- Documents that differ only by the order of members where it does not count, and by unknown
members there, state the same intent and are sent as the same query. Conditions, comparisons and
relations stay in the order of the members that state them, and only members that state none are
passed over. -/
theorem Intent.rearranged_documents_agree :
    (∀ members members', DocumentsRearranged members members' →
      (Intent.ofMembers members).value = (Intent.ofMembers members').value ∧
        (Intent.ofMembers members).value.compile = (Intent.ofMembers members').value.compile) ∧
    (∀ members,
      (FilterNode.ofMembers members).value =
          members.filterMap (fun m => (FilterValue.ofJson? m.1 m.2).value.map (m.1, ·)) ∧
        (FilterNode.ofMembers members).value.map Prod.fst =
          (members.filter fun m => m.2.kind ≠ "null").map Prod.fst) ∧
    (∀ key members, (FilterValue.ofJson? key (.object members)).value =
      some (if isOperatorMap members then
          .operators (members.filterMap fun m =>
            (Operand.ofJson? m.2).map (Operator.ofSpelling m.1, ·))
        else .nested (FilterNode.ofMembers members).value)) ∧
    ∀ members,
      (Populate.relationsOfMembers members).value =
          members.filterMap (fun m => (RelationPopulate.ofJson? m.1 m.2).value.map (m.1, ·)) ∧
        (Populate.relationsOfMembers members).value.map Prod.fst =
          (members.filter fun m => m.2.kind ∈ ["boolean", "string", "object"]).map Prod.fst := by
  refine ⟨fun members members' h => ?_, fun members => ?_, FilterValue.value_ofJson?_object,
    fun members => ?_⟩
  · have hv := h.value_eq
    exact ⟨hv, congrArg Intent.compile hv⟩
  · exact ⟨FilterNode.value_ofMembers members, FilterNode.map_fst_ofMembers members⟩
  · exact ⟨Populate.value_relationsOfMembers members, Populate.map_fst_relationsOfMembers members⟩

/-- A relation named like a member of an intent, of which one named like a member of a shape is
included, and conditions of fields with such names. -/
theorem Intent.relations_named_as_keys :
    let conditions := Json.object [("populate", .string "a"), ("filters", .boolean true)]
    let below := [("sort", Json.string "b"), ("fields", .string "id")]
    let below' := [("fields", Json.string "id"), ("q", .null), ("sort", .string "b")]
    let shape (below : List (String × Json)) :=
      [("fields", Json.string "c"), ("populate", .object [("populate", .object below)])]
    let shape' := [("populate", Json.object [("populate", .object below')]), ("limit", .null),
      ("fields", .string "c")]
    let pages := [("page", Json.string "2"), ("pageSize", .string "5")]
    let pages' := [("pageSize", Json.string "5"), ("size", .null), ("page", .string "2")]
    let document (shape pages : List (String × Json)) := [("filters", conditions),
      ("populate", .object [("filters", .object shape)]), ("pagination", .object pages)]
    let document' := [("pagination", .object pages'), ("filter", .null),
      ("populate", .object [("filters", .object shape')]), ("filters", conditions)]
    DocumentsRearranged (document (shape below) pages) document' ∧
      (Intent.ofMembers (document (shape below) pages)).value.compile =
        (Intent.ofMembers document').value.compile ∧
      (Intent.ofMembers document').value.compile =
        "filters[populate]=a&filters[filters]=true&populate[filters][fields][0]=c" ++
          "&populate[filters][populate][populate][fields][0]=id" ++
          "&populate[filters][populate][populate][sort][0]=b" ++
          "&pagination[page]=2&pagination[pageSize]=5" := by
  intro conditions below below' shape shape' pages pages' document document'
  let relation : MemberSlot := ⟨⟨[], []⟩, "filters"⟩
  let inclusion (pages : List (String × Json)) : Slot (String × Json) :=
    ⟨[("filters", conditions)], [("pagination", .object pages)]⟩
  have hbelow : DocumentStep (document (shape below) pages) (document (shape below') pages) :=
    .populate (inclusion pages) relation (.nested ⟨[("fields", .string "c")], []⟩
      ⟨⟨[], []⟩, "populate"⟩ (.shape ⟨by decide, by decide, by decide⟩))
  have hshape : DocumentStep (document (shape below') pages) (document shape' pages) :=
    .populate (inclusion pages) relation (.shape ⟨by decide, by decide, by decide⟩)
  have hpages : DocumentStep (document shape' pages) (document shape' pages') :=
    .pagination ⟨[("filters", conditions), ("populate", .object [("filters", .object shape')])], []⟩
      ⟨by decide, by decide, by decide⟩
  have hmembers : DocumentStep (document shape' pages') document' :=
    .intent ⟨by decide, by decide, by decide⟩
  have h : DocumentsRearranged (document (shape below) pages) document' :=
    (((Relation.ReflTransGen.single hbelow).tail hshape).tail hpages).tail hmembers
  exact ⟨h, (Intent.rearranged_documents_agree.1 _ _ h).2, by decide +kernel⟩

end BracketQuery
