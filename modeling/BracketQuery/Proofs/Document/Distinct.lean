import BracketQuery.Proofs.Document.Places
import BracketQuery.Proofs.Wire.Distinct

/-!
No key is sent twice for a document. The names of each object are distinct, so what its members send
is kept apart by them, unless a name holds the bracket that ends a segment of a key.
-/

namespace BracketQuery

open Params (HasDistinctKeys)

namespace Json

/-! ## Names -/

mutual

/-- The names of the members of a document, at every depth. -/
def names : Json → List String
  | .object members => namesOfMembers members
  | .array elements => namesOfElements elements
  | .null | .boolean _ | .number _ | .string _ => []

def namesOfElements : List Json → List String
  | [] => []
  | element :: rest => names element ++ namesOfElements rest

def namesOfMembers : List (String × Json) → List String
  | [] => []
  | (name, value) :: rest => name :: names value ++ namesOfMembers rest

end

/-- Names none of which holds a closing bracket. -/
def AreClosed (names : List String) : Prop := ∀ name ∈ names, ']' ∉ name.toList

instance : DecidablePred AreClosed := fun names =>
  inferInstanceAs (Decidable (∀ name ∈ names, ']' ∉ name.toList))

@[simp] theorem areClosed_cons {name : String} {rest : List String} :
    AreClosed (name :: rest) ↔ ']' ∉ name.toList ∧ AreClosed rest := List.forall_mem_cons

@[simp] theorem areClosed_append {names rest : List String} :
    AreClosed (names ++ rest) ↔ AreClosed names ∧ AreClosed rest := List.forall_mem_append

theorem areClosed_namesOfMembers_iff : (members : List (String × Json)) →
    (AreClosed (namesOfMembers members) ↔
      ∀ m ∈ members, ']' ∉ m.1.toList ∧ AreClosed m.2.names)
  | [] => by simp [namesOfMembers, AreClosed]
  | (_, _) :: rest => by
      simp [namesOfMembers, areClosed_namesOfMembers_iff rest, and_assoc]

/-! ## Filters -/

theorem sendOperand_covers {path : KeyPath} {value : Json} {p : Param}
    (h : p ∈ value.sendOperand path) : path.Covers p.key := by
  rw [sendOperand] at h
  cases ho : Operand.ofJson? value with
  | none => simp [ho, Operand.lowerOption] at h
  | some operand =>
      rw [ho] at h
      exact operand.lower_covers path p h

theorem sendOperand_distinct (path : KeyPath) (value : Json) :
    HasDistinctKeys (value.sendOperand path) := by
  cases value with
  | null | object _ => exact .nil
  | array elements => exact Params.lowerIndexed_distinct _ path _
  | boolean _ | number _ | string _ => exact .singleton _

theorem sendValue_covers {path : KeyPath} {key : String} {value : Json} {p : Param}
    (h : p ∈ value.sendValue path key) : path.Covers p.key := by
  rw [sendValue] at h
  cases hv : (FilterValue.ofJson? key value).value with
  | none => simp [hv, FilterValue.lowerOption] at h
  | some condition =>
      rw [hv] at h
      exact condition.lower_covers path p h

theorem sendMembers_eq_flatMap (path : KeyPath) (members : List (String × Json)) :
    sendMembers path members = members.flatMap fun m => m.2.sendValue (path.child m.1) m.1 := by
  induction members with
  | nil => rfl
  | cons member rest ih => rw [sendMembers_cons, ih, List.flatMap_cons]

/-- The members of an object are kept apart by their names. -/
theorem sendMembers_distinct {path : KeyPath} {members : List (String × Json)}
    (hn : (members.map Prod.fst).Nodup) (hc : AreClosed (namesOfMembers members))
    (h : ∀ m ∈ members, HasDistinctKeys (m.2.sendValue (path.child m.1) m.1)) :
    HasDistinctKeys (sendMembers path members) := by
  rw [sendMembers_eq_flatMap]
  exact .flatMap_below path hn (fun m hm => ((areClosed_namesOfMembers_iff members).mp hc m hm).1)
    (fun _ _ _ hp => sendValue_covers hp) h

mutual

theorem sendValue_distinct (path : KeyPath) (key : String) : (value : Json) →
    value.IsReadable → AreClosed value.names → HasDistinctKeys (value.sendValue path key)
  | .null, _, _ => .nil
  | .boolean _, _, _ | .number _, _, _ | .string _, _, _ => .singleton _
  | .object members, ⟨hn, hm⟩, hc => by
      rw [sendValue_object]
      split
      · exact .flatMap_below path hn
          (fun m hm => ((areClosed_namesOfMembers_iff members).mp hc m hm).1)
          (fun _ _ _ hp => sendOperand_covers hp) fun m _ => sendOperand_distinct _ m.2
      · exact sendMembers_distinct hn hc (sendMember_distinct path members hm hc)
  | .array elements, hd, hc => by
      rw [sendValue_array]
      split
      · exact sendGroup_distinct path key elements 0 hd hc
      · exact Params.lowerIndexed_distinct _ path _

theorem sendMember_distinct (path : KeyPath) : (members : List (String × Json)) →
    MembersReadable members → AreClosed (namesOfMembers members) →
      ∀ m ∈ members, HasDistinctKeys (m.2.sendValue (path.child m.1) m.1)
  | [], _, _ => by simp
  | (name, value) :: rest, ⟨hv, hr⟩, hc => by
      simp only [namesOfMembers, areClosed_cons, areClosed_append] at hc
      exact List.forall_mem_cons.mpr
        ⟨sendValue_distinct (path.child name) name value hv hc.1.2,
          sendMember_distinct path rest hr hc.2⟩

/-- The members of a group are kept apart by their places. -/
theorem sendGroup_distinct (path : KeyPath) (key : String) : (elements : List Json) → (i : Nat) →
    ElementsReadable elements → AreClosed (namesOfElements elements) →
      HasDistinctKeys (sendGroup path i key elements)
  | [], _, _, _ => .nil
  | .object members :: rest, i, ⟨⟨hn, hm⟩, hr⟩, hc => by
      simp only [namesOfElements, names, areClosed_append] at hc
      rw [sendGroup_object]
      have hmembers := sendMembers_distinct hn hc.1
        (sendMember_distinct (path.index i) members hm hc.1)
      refine hmembers.append (sendGroup_distinct path key rest (i + 1) hr hc.2)
        fun p hp q hq he => ?_
      have hi := FilterNode.covers_of_mem_lower hp
      obtain ⟨j, hj, hq⟩ := FilterNode.lowerMembers_covers path (i + 1) _ q hq
      rw [← he] at hq
      have hij := hi.index_eq hq
      omega
  | .null :: rest, i, ⟨_, hr⟩, hc | .boolean _ :: rest, i, ⟨_, hr⟩, hc
  | .number _ :: rest, i, ⟨_, hr⟩, hc | .string _ :: rest, i, ⟨_, hr⟩, hc
  | .array _ :: rest, i, ⟨_, hr⟩, hc => by
      simp only [namesOfElements, areClosed_append] at hc
      exact sendGroup_distinct path key rest i hr hc.2

end

theorem sendFilters_distinct (path : KeyPath) {value : Json} (hd : value.IsReadable)
    (hc : AreClosed value.names) : HasDistinctKeys (value.sendFilters path) := by
  cases value with
  | object members => exact sendMembers_distinct hd.1 hc (sendMember_distinct path members hd.2 hc)
  | _ => exact .nil

theorem sendFilters_covers {path : KeyPath} {value : Json} {p : Param}
    (h : p ∈ value.sendFilters path) : path.Covers p.key := by
  unfold sendFilters at h
  split at h
  · exact FilterNode.covers_of_mem_lower h
  · cases h

/-! ## Inclusions -/

theorem areClosed_of_find? {name : String} {value : Json} {members : List (String × Json)}
    (hc : AreClosed (namesOfMembers members)) (hf : find? name members = some value) :
    AreClosed value.names :=
  ((areClosed_namesOfMembers_iff members).mp hc _ (mem_of_find? hf)).2

theorem distinct_sendMember {send : Json → Params} {name : String}
    {members : List (String × Json)}
    (h : ∀ value, find? name members = some value → HasDistinctKeys (send value)) :
    HasDistinctKeys (sendMember send name members) := by
  unfold sendMember
  split
  · rename_i value hf
    exact h value hf
  · exact .nil

theorem covers_of_mem_sendMember {path : KeyPath} {send : Json → Params} {name : String}
    {members : List (String × Json)} (h : ∀ value, ∀ p ∈ send value, path.Covers p.key) {p : Param}
    (hp : p ∈ sendMember send name members) : path.Covers p.key := by
  obtain ⟨value, _, hp⟩ := exists_of_mem_sendMember hp
  exact h value p hp

theorem sendRelation_covers {path : KeyPath} {relation : String} {value : Json} {p : Param}
    (h : p ∈ value.sendRelation path relation) : path.Covers p.key := by
  unfold sendRelation at h
  split at h
  · exact RelationPopulate.lower_covers path _ p h
  · cases h

theorem sendRelations_eq_flatMap (path : KeyPath) (members : List (String × Json)) :
    sendRelations path members =
      members.flatMap fun m => m.2.sendRelation (path.child m.1) m.1 := by
  induction members with
  | nil => rfl
  | cons member rest ih => rw [sendRelations_cons, ih, List.flatMap_cons]

/-- What is included of a relation is kept apart by the four names of its parts. -/
theorem shape_distinct (path : KeyPath) {members : List (String × Json)}
    (hinner : HasDistinctKeys (sendMember (sendInclusion (path.child "populate")) "populate" members))
    (hfilters : HasDistinctKeys (sendMember (sendFilters (path.child "filters")) "filters" members)) :
    HasDistinctKeys ((PopulateShape.ofMembers members).lower path) := by
  let parts : List (String × Params) := [
    ("fields", lowerIndexed .populate (path.child "fields") (textsOfMember members "fields")),
    ("populate", sendMember (sendInclusion (path.child "populate")) "populate" members),
    ("sort", lowerIndexed .populate (path.child "sort") (textsOfMember members "sort")),
    ("filters", (sendMember (sendFilters (path.child "filters")) "filters" members).map
      fun p => { p with category := .populate })]
  have hparts : (PopulateShape.ofMembers members).lower path = parts.flatMap Prod.snd := by
    simp [PopulateShape.lower_ofMembers, parts]
  have hcovers : ∀ part ∈ parts, ∀ p ∈ part.2, (path.child part.1).Covers p.key := by
    simp only [parts, List.forall_mem_cons, List.forall_mem_map]
    exact ⟨fun _ => covers_of_mem_lowerIndexed,
      fun _ => covers_of_mem_sendMember fun _ => Populate.lowerOption_covers _ _,
      fun _ => covers_of_mem_lowerIndexed,
      fun _ => covers_of_mem_sendMember fun _ _ => sendFilters_covers, by simp⟩
  have hdistinct : ∀ part ∈ parts, HasDistinctKeys part.2 := by
    simp only [parts, List.forall_mem_cons]
    exact ⟨Params.lowerIndexed_distinct _ _ _, hinner, Params.lowerIndexed_distinct _ _ _,
      hfilters.map fun _ => rfl, by simp⟩
  have hnames : (parts.map Prod.fst).Nodup := by simp [parts]
  have hclosed : ∀ part ∈ parts, ']' ∉ part.1.toList := by simp [parts]
  rw [hparts]
  exact .flatMap_below path hnames hclosed hcovers hdistinct

mutual

theorem sendInclusion_distinct (path : KeyPath) : (value : Json) →
    value.IsReadable → AreClosed value.names → HasDistinctKeys (value.sendInclusion path)
  | .null, _, _ | .boolean false, _, _ | .number _, _, _ => .nil
  | .boolean true, _, _ => .singleton _
  | .string name, _, _ => by
      rw [sendInclusion_string]
      split
      · exact .nil
      · exact .singleton _
  | .array _, _, _ => Params.lowerIndexed_distinct _ path _
  | .object members, ⟨hn, hm⟩, hc => by
      have hs : (Json.object members).sendInclusion path = sendRelations path members := rfl
      rw [hs, sendRelations_eq_flatMap]
      exact .flatMap_below path hn
        (fun m hm => ((areClosed_namesOfMembers_iff members).mp hc m hm).1)
        (fun _ _ _ hp => sendRelation_covers hp) (sendRelations_distinct path members hm hc)
termination_by value => sizeOf value

theorem sendRelations_distinct (path : KeyPath) : (members : List (String × Json)) →
    MembersReadable members → AreClosed (namesOfMembers members) →
      ∀ m ∈ members, HasDistinctKeys (m.2.sendRelation (path.child m.1) m.1)
  | [], _, _ => by simp
  | (name, value) :: rest, ⟨hv, hr⟩, hc => by
      simp only [namesOfMembers, areClosed_cons, areClosed_append] at hc
      exact List.forall_mem_cons.mpr
        ⟨sendRelation_distinct (path.child name) name value hv hc.1.2,
          sendRelations_distinct path rest hr hc.2⟩
termination_by members => sizeOf members

theorem sendRelation_distinct (path : KeyPath) (relation : String) : (value : Json) →
    value.IsReadable → AreClosed value.names → HasDistinctKeys (value.sendRelation path relation)
  | .null, _, _ | .number _, _, _ | .array _, _, _ => .nil
  | .boolean _, _, _ | .string _, _, _ => .singleton _
  | .object members, hd, hc => by
      rw [sendRelation_object]
      split
      · exact .singleton _
      · refine shape_distinct path (distinct_sendMember fun value hf => ?_)
          (distinct_sendMember fun value hf =>
            sendFilters_distinct _ (isReadable_of_find? hd hf) (areClosed_of_find? hc hf))
        have hlt := sizeOf_lt_of_find? hf
        exact sendInclusion_distinct _ value (isReadable_of_find? hd hf) (areClosed_of_find? hc hf)
termination_by value => sizeOf value

end

end Json

/-! ## Intents -/

theorem Pagination.lower_distinct (pagination : Pagination) : HasDistinctKeys pagination.lower := by
  have hnames : (pagination.members.map Prod.fst).Nodup := by simp [members]
  have hclosed : ∀ m ∈ pagination.members, ']' ∉ m.1.toList := by simp [members]
  rw [lower, List.filterMap_eq_flatMap_toList]
  refine .flatMap_below (KeyPath.ofRoot Category.pagination.root) hnames hclosed ?_ ?_
  · rintro ⟨name, value⟩ _ p hp
    obtain ⟨_, _, rfl⟩ := Option.map_eq_some_iff.mp (Option.mem_toList.mp hp)
    exact KeyPath.covers_text _
  · rintro ⟨name, none | n⟩ _
    · exact .nil
    · exact .singleton _

theorem lowerText_distinct (category : Category) : (text : Option String) →
    HasDistinctKeys (lowerText category text)
  | none => .nil
  | some value => by
      simp only [lowerText]
      split
      · exact .nil
      · exact .singleton _

namespace Intent

open Json (AreClosed)

/-- The parameters of an intent are kept apart by the roots of their categories. -/
theorem lower_distinct {i : Intent} (h : ∀ category, HasDistinctKeys (i.lowerOf category)) :
    HasDistinctKeys i.lower := by
  have hroots : Category.all.Pairwise fun c d => c.root ≠ d.root := by decide
  have hopen : ∀ category : Category, '[' ∉ category.root.toList := by
    intro category
    cases category <;> decide
  rw [lower_eq_flatMap]
  refine .flatMap (fun category _ => h category) (hroots.imp fun hne p hp q hq he => ?_)
  have hq' := i.lowerOf_covers _ q hq
  rw [← he] at hq'
  exact hne ((i.lowerOf_covers _ p hp).root_eq (hopen _) (hopen _) hq')

section

variable {members : List (String × Json)} (hd : (Json.object members).IsReadable)
  (hc : ∀ m ∈ members, m.1 = "filters" ∨ m.1 = "populate" → AreClosed m.2.names)

include hd hc

theorem lowerOf_distinct : (category : Category) →
    HasDistinctKeys ((Intent.ofMembers members).value.lowerOf category)
  | .filters => by
      rw [lowerOf_filters_ofMembers]
      exact Json.distinct_sendMember fun value hf =>
        Json.sendFilters_distinct _ (Json.isReadable_of_find? hd hf)
          (hc _ (Json.mem_of_find? hf) (.inl rfl))
  | .populate => by
      rw [lowerOf_populate_ofMembers]
      exact Json.distinct_sendMember fun value hf =>
        Json.sendInclusion_distinct _ value (Json.isReadable_of_find? hd hf)
          (hc _ (Json.mem_of_find? hf) (.inr rfl))
  | .sort | .fields => Params.lowerIndexed_distinct _ _ _
  | .pagination => by
      simp only [lowerOf]
      cases (Intent.ofMembers members).value.pagination with
      | none => exact .nil
      | some pagination => exact pagination.lower_distinct
  | .locale | .publicationState | .search => lowerText_distinct _ _

end

/-- The keys of what a document sends are distinct if no name inside its filters or its inclusions
holds a closing bracket. So looking up the key of a parameter finds the value of this parameter. -/
theorem document_keys_distinct (members : List (String × Json))
    (hd : (Json.object members).IsReadable)
    (hc : ∀ m ∈ members, m.1 = "filters" ∨ m.1 = "populate" → AreClosed m.2.names) :
    let params := (Intent.ofMembers members).value.lower
    (params.map Param.key).Nodup ∧ ∀ p ∈ params, params.get? p.key = some p.value := by
  intro params
  have h : params.HasDistinctKeys := lower_distinct (lowerOf_distinct hd hc)
  exact ⟨h, fun p hp => h.get?_key hp⟩

/-- Names that are empty, that look like places in a list, or that are those of the parts of a
relation or of an intent. -/
theorem look_alike_names_distinct :
    let members := [
      ("filters", Json.object [("0", .array [.string "a", .string "b"]),
        ("", .object [("", .string "c"), ("0", .boolean true)]), ("sort", .string "d"),
        ("$or", .array [.object [("0", .object [("$in", .array [.string "e"]),
          ("$and", .string "f")])], .object [("[", .string "g")]])]),
      ("populate", .object [("filters", .object [("filters", .object [("fields", .string "h")]),
        ("fields", .array [.string "i"]), ("populate", .object [("filters", .boolean true)])]),
        ("0", .object [])]),
      ("sort", .string "j"), ("pagination", .object [("page", .number (.integer 1))]),
      ("q", .string "k")]
    (Json.object members).IsReadable ∧
      (∀ m ∈ members, m.1 = "filters" ∨ m.1 = "populate" → AreClosed m.2.names) ∧
      (Intent.ofMembers members).value.lower.length = 15 ∧
      ((Intent.ofMembers members).value.lower.map Param.key).Nodup := by
  intro members
  have hd : (Json.object members).IsReadable := by
    simp [members, Json.IsReadable, Json.MembersReadable, Json.ElementsReadable,
      Json.Number.IsReadable]
  have hc : ∀ m ∈ members, m.1 = "filters" ∨ m.1 = "populate" → AreClosed m.2.names := by
    decide +kernel
  exact ⟨hd, hc, by decide +kernel, (document_keys_distinct members hd hc).1⟩

end Intent

end BracketQuery
