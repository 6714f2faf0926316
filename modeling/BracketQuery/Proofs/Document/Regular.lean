import BracketQuery.Document.Encode
import BracketQuery.Proofs.Binary64
import BracketQuery.Proofs.Document.Decoding
import BracketQuery.Proofs.Populate.Filters

/-!
Intents of the form that documents give them. Names are distinct wherever they are members of an
object, doubles are finite, and each condition is of the kind that decoding chooses for its key.
Every intent decoded from a readable document is regular, and every intent is written as a readable
document.
-/

namespace BracketQuery

/-- An operator that is not a known one by another name. -/
def Operator.IsProper : Operator → Prop
  | .other spelling => isKnown spelling = false
  | _ => True

def Scalar.IsFinite : Scalar → Prop
  | .float value => value.isFinite = true
  | _ => True

def Operand.IsFinite : Operand → Prop
  | .scalar value => value.IsFinite
  | .list values => ∀ value ∈ values, value.IsFinite

mutual

/-- A condition of the form that decoding gives it under a key. -/
def FilterValue.IsRegular (key : String) : FilterValue → Prop
  | .operators comparisons =>
    (comparisons.map fun c => c.1.spelling).Nodup ∧
      ∀ c ∈ comparisons, c.1.IsProper ∧ c.2.IsFinite
  | .nested node => FilterNode.IsRegular node ∧ ∀ entry ∈ node, Operator.isKnown entry.1 = false
  | .scalar value => value.IsFinite
  | .list values => ¬ IsCombinator key ∧ ∀ value ∈ values, value.IsFinite
  | .group members => IsCombinator key ∧ FilterNode.AllRegular members

/-- A node with distinct keys whose conditions are regular. -/
def FilterNode.IsRegular : FilterNode → Prop
  | [] => True
  | (key, value) :: rest =>
    key ∉ rest.map Prod.fst ∧ FilterValue.IsRegular key value ∧ FilterNode.IsRegular rest

/-- Group members each of which is regular. -/
def FilterNode.AllRegular : List FilterNode → Prop
  | [] => True
  | node :: rest => FilterNode.IsRegular node ∧ FilterNode.AllRegular rest

end

mutual

/-- An inclusion that names relations, each once where they have shapes. -/
def Populate.IsNamed : Populate → Prop
  | .relation name => name ≠ ""
  | .shaped relations => Populate.AllNamed relations
  | .all | .relations _ => True

def Populate.AllNamed : List (String × RelationPopulate) → Prop
  | [] => True
  | (name, inclusion) :: rest =>
    name ∉ rest.map Prod.fst ∧ RelationPopulate.IsNamed inclusion ∧ Populate.AllNamed rest

def RelationPopulate.IsNamed : RelationPopulate → Prop
  | .shape shape => PopulateShape.IsNamed shape
  | .flag _ | .name _ => True

def PopulateShape.IsNamed : PopulateShape → Prop
  | .mk _ inner _ _ => Populate.OptionNamed inner

def Populate.OptionNamed : Option Populate → Prop
  | some populate => Populate.IsNamed populate
  | none => True

end

/-- An intent of the form that decoding gives it. -/
structure Intent.IsRegular (i : Intent) : Prop where
  nodes : ∀ node ∈ i.filterNodes, FilterNode.IsRegular node
  named : Populate.OptionNamed i.populate
  pagination : i.pagination ≠ some Pagination.empty

/-! ## Operators and values -/

namespace Operator

theorem isKnown_spelling_of_mem {operator : Operator} (h : operator ∈ known) :
    isKnown operator.spelling = true :=
  List.find?_isSome.mpr ⟨operator, h, beq_self_eq_true _⟩

theorem mem_known_of_parse? {operator : Operator} {text : String} (h : parse? text = some operator) :
    operator ∈ known :=
  List.mem_of_find?_eq_some h

theorem isProper_of_mem_known {operator : Operator} (h : operator ∈ known) : operator.IsProper := by
  cases operator with
  | other text => simp [known] at h
  | _ => trivial

theorem isProper_ofSpelling (text : String) : (ofSpelling text).IsProper := by
  unfold ofSpelling
  cases h : parse? text with
  | none => simp [IsProper, isKnown, h]
  | some operator => exact isProper_of_mem_known (mem_known_of_parse? h)

theorem ofSpelling_spelling {operator : Operator} (h : operator.IsProper) :
    ofSpelling operator.spelling = operator := by
  cases operator with
  | other text =>
      have hn : parse? text = none := by simpa [IsProper, isKnown] using h
      simp [ofSpelling, spelling, hn]
  | _ => rfl

/-- Of proper operators, those with a known spelling are the known ones. -/
theorem isKnown_spelling_iff {operator : Operator} (h : operator.IsProper) :
    isKnown operator.spelling = true ↔ operator ∈ known := by
  refine ⟨fun hk => ?_, isKnown_spelling_of_mem⟩
  obtain ⟨found, hf⟩ := Option.isSome_iff_exists.mp hk
  have he : found = operator := by
    rw [← ofSpelling_spelling h, ofSpelling, hf, Option.getD_some]
  exact he ▸ mem_known_of_parse? hf

end Operator

theorem Scalar.isFinite_ofNumber {number : Json.Number} (h : number.IsReadable) :
    (Scalar.ofNumber number).IsFinite := by
  cases number with
  | float value => exact h
  | integer n =>
      obtain ⟨hl, hu⟩ := h
      simp only [Scalar.ofNumber]
      cases Integer.toInt64? n with
      | some _ => trivial
      | none => exact Binary64.isFinite_ofInt (by omega)

theorem Scalar.isFinite_ofJson? {document : Json} {value : Scalar} (hd : document.IsReadable)
    (h : Scalar.ofJson? document = some value) : value.IsFinite := by
  cases document with
  | string _ | boolean _ =>
      obtain rfl := Option.some.inj h
      trivial
  | number n =>
      obtain rfl := Option.some.inj h
      exact Scalar.isFinite_ofNumber hd
  | null | array _ | object _ => simp [Scalar.ofJson?] at h

theorem Scalar.isFinite_of_mem_filterMap {elements : List Json} {value : Scalar}
    (hd : (Json.array elements).IsReadable) (h : value ∈ elements.filterMap Scalar.ofJson?) :
    value.IsFinite := by
  obtain ⟨element, he, hv⟩ := List.mem_filterMap.mp h
  exact Scalar.isFinite_ofJson? (Json.isReadable_array.mp hd element he) hv

theorem Operand.isFinite_ofJson? {document : Json} {operand : Operand} (hd : document.IsReadable)
    (h : Operand.ofJson? document = some operand) : operand.IsFinite := by
  cases document with
  | array elements =>
      obtain rfl := Option.some.inj h
      exact fun value hv => Scalar.isFinite_of_mem_filterMap hd hv
  | object _ => simp [Operand.ofJson?] at h
  | null | boolean _ | number _ | string _ =>
      simp only [Operand.ofJson?] at h
      obtain ⟨value, hv, rfl⟩ := Option.map_eq_some_iff.mp h
      exact Scalar.isFinite_ofJson? hd hv

/-! ## Nodes -/

theorem FilterNode.isRegular_iff (node : FilterNode) : FilterNode.IsRegular node ↔
    (node.map Prod.fst).Nodup ∧ ∀ entry ∈ node, entry.2.IsRegular entry.1 := by
  induction node with
  | nil => simp [FilterNode.IsRegular]
  | cons entry rest ih =>
      rw [FilterNode.IsRegular, ih, List.map_cons, List.nodup_cons, List.forall_mem_cons,
        ← and_assoc, and_and_and_comm]

theorem Populate.allNamed_iff (relations : List (String × RelationPopulate)) :
    Populate.AllNamed relations ↔
      (relations.map Prod.fst).Nodup ∧ ∀ entry ∈ relations, entry.2.IsNamed := by
  induction relations with
  | nil => simp [Populate.AllNamed]
  | cons entry rest ih =>
      rw [Populate.AllNamed, ih, List.map_cons, List.nodup_cons, List.forall_mem_cons,
        ← and_assoc, and_and_and_comm]

/-! ## Decoding gives regular intents -/

/-- What is taken from named parts keeps the order of the names. -/
theorem map_fst_filterMap_sublist {α β : Type} (f : String × α → Option β)
    (members : List (String × α)) :
    ((members.filterMap fun m => (f m).map (m.1, ·)).map Prod.fst).Sublist
      (members.map Prod.fst) := by
  induction members with
  | nil => exact List.Sublist.slnil
  | cons member rest ih =>
      rw [List.filterMap_cons]
      cases f member with
      | none => exact ih.cons _
      | some _ => exact ih.cons_cons _

theorem comparisonsOf_regular {members : List (String × Json)}
    (hd : (Json.object members).IsReadable) :
    ((comparisonsOf members).map fun c => c.1.spelling).Nodup ∧
      ∀ c ∈ comparisonsOf members, c.1.IsProper ∧ c.2.IsFinite := by
  obtain ⟨hn, hv⟩ := Json.isReadable_object.mp hd
  constructor
  · have hs : (comparisonsOf members).map (fun c => c.1.spelling) =
        (members.filterMap fun m => (Operand.ofJson? m.2).map (m.1, ·)).map Prod.fst := by
      simp only [comparisonsOf, List.map_filterMap, Option.map_map]
      congr 1
      funext m
      cases Operand.ofJson? m.2 <;> simp
    rw [hs]
    exact hn.sublist (map_fst_filterMap_sublist _ members)
  · intro c hc
    obtain ⟨member, hm, ho⟩ := List.mem_filterMap.mp hc
    obtain ⟨operand, hj, rfl⟩ := Option.map_eq_some_iff.mp ho
    exact ⟨Operator.isProper_ofSpelling _, Operand.isFinite_ofJson? (hv member hm) hj⟩

theorem FilterNode.map_fst_ofMembers_sublist (members : List (String × Json)) :
    ((FilterNode.ofMembers members).value.map Prod.fst).Sublist (members.map Prod.fst) := by
  rw [FilterNode.value_ofMembers]
  exact map_fst_filterMap_sublist _ members

mutual

theorem FilterValue.isRegular_ofJson? (key : String) : (document : Json) → document.IsReadable →
    ∀ value, (FilterValue.ofJson? key document).value = some value → value.IsRegular key
  | .null, _ => by simp [FilterValue.ofJson?]
  | .object members, hd => by
      intro value h
      rw [FilterValue.value_ofJson?_object] at h
      obtain rfl := Option.some.inj h
      split
      · exact comparisonsOf_regular hd
      · rename_i hk
        refine ⟨FilterNode.isRegular_ofMembers members hd.1 hd.2, fun entry he => ?_⟩
        -- The keys of the node are names of members, none of which is a known operator.
        obtain ⟨member, hm, hn⟩ := List.mem_map.mp
          ((FilterNode.map_fst_ofMembers_sublist members).subset (List.mem_map_of_mem he))
        exact hn ▸ Bool.eq_false_iff.mpr fun ht => hk (List.any_eq_true.mpr ⟨member, hm, ht⟩)
  | .array elements, hd => by
      intro value h
      rw [FilterValue.value_ofJson?_array] at h
      obtain rfl := Option.some.inj h
      split
      · rename_i hk
        exact ⟨hk, FilterNode.allRegular_groupOfJson key elements hd⟩
      · rename_i hk
        exact ⟨hk, fun value hv => Scalar.isFinite_of_mem_filterMap hd hv⟩
  | .string _, hd | .boolean _, hd | .number _, hd => by
      intro value h
      simp only [FilterValue.ofJson?, Traced.value_pure] at h
      obtain ⟨scalar, hs, rfl⟩ := Option.map_eq_some_iff.mp h
      exact Scalar.isFinite_ofJson? hd hs

theorem FilterNode.isRegular_ofMembers : (members : List (String × Json)) →
    (members.map Prod.fst).Nodup → Json.MembersReadable members →
      FilterNode.IsRegular (FilterNode.ofMembers members).value
  | [], _, _ => trivial
  | (key, document) :: rest, hn, hd => by
      obtain ⟨hk, hn⟩ := List.nodup_cons.mp hn
      have hr := FilterNode.isRegular_ofMembers rest hn hd.2
      have hv := FilterValue.isRegular_ofJson? key document hd.1
      rw [FilterNode.value_ofMembers_cons]
      cases h : (FilterValue.ofJson? key document).value with
      | none => exact hr
      | some value =>
          refine ⟨fun hm => hk ?_, hv value h, hr⟩
          exact (FilterNode.map_fst_ofMembers_sublist rest).subset hm

theorem FilterNode.allRegular_groupOfJson (key : String) : (elements : List Json) →
    Json.ElementsReadable elements →
      FilterNode.AllRegular (FilterNode.groupOfJson key elements).value
  | [], _ => trivial
  | .object members :: rest, hd =>
      ⟨FilterNode.isRegular_ofMembers members hd.1.1 hd.1.2,
        FilterNode.allRegular_groupOfJson key rest hd.2⟩
  | .null :: rest, hd | .boolean _ :: rest, hd | .number _ :: rest, hd | .string _ :: rest, hd
  | .array _ :: rest, hd => FilterNode.allRegular_groupOfJson key rest hd.2

end

theorem FilterNode.isRegular_ofJson? {document : Json} {node : FilterNode}
    (hd : document.IsReadable) (h : (FilterNode.ofJson? document).value = some node) :
    FilterNode.IsRegular node := by
  cases document with
  | object members =>
      rw [FilterNode.value_ofJson?_object] at h
      obtain rfl := Option.some.inj h
      exact FilterNode.isRegular_ofMembers members hd.1 hd.2
  | _ => simp [FilterNode.ofJson?] at h

mutual

theorem Populate.regular_ofJson? : (document : Json) → document.IsReadable →
    ∀ populate, (Populate.ofJson? document).value = some populate →
      populate.IsNamed ∧ ∀ node ∈ populate.filterNodes, FilterNode.IsRegular node
  | .boolean true, _ => by
      simp [Populate.ofJson?, Populate.IsNamed, Populate.filterNodes]
  | .array _, _ => by
      simp [Populate.ofJson?, Populate.IsNamed, Populate.filterNodes]
  | .string name, _ => by
      by_cases hn : name = ""
      · simp [Populate.ofJson?, hn]
      · simp [Populate.ofJson?, hn, Populate.IsNamed, Populate.filterNodes]
  | .object members, hd => by
      simp only [Populate.ofJson?, Traced.value_bind, Traced.value_pure]
      rintro _ ⟨rfl⟩
      exact Populate.regular_relationsOfMembers members hd.1 hd.2
  | .null, _ | .boolean false, _ | .number _, _ => by simp [Populate.ofJson?]

theorem Populate.regular_relationsOfMembers : (members : List (String × Json)) →
    (members.map Prod.fst).Nodup → Json.MembersReadable members →
      Populate.AllNamed (Populate.relationsOfMembers members).value ∧
        ∀ node ∈ Populate.filterNodesOfRelations (Populate.relationsOfMembers members).value,
          FilterNode.IsRegular node
  | [], _, _ => ⟨trivial, by simp [Populate.relationsOfMembers, Populate.filterNodesOfRelations]⟩
  | (relation, document) :: rest, hn, hd => by
      obtain ⟨hk, hn⟩ := List.nodup_cons.mp hn
      obtain ⟨hr, hnodes⟩ := Populate.regular_relationsOfMembers rest hn hd.2
      have hi := RelationPopulate.regular_ofJson? relation document hd.1
      have hs : ((Populate.relationsOfMembers rest).value.map Prod.fst).Sublist
          (rest.map Prod.fst) := by
        rw [Populate.value_relationsOfMembers]
        exact map_fst_filterMap_sublist _ rest
      simp only [Populate.relationsOfMembers, Traced.value_bind, Traced.value_pure]
      cases h : (RelationPopulate.ofJson? relation document).value with
      | none => exact ⟨hr, hnodes⟩
      | some inclusion =>
          obtain ⟨hin, hnode⟩ := hi inclusion h
          exact ⟨⟨fun hm => hk (hs.subset hm), hin, hr⟩,
            List.forall_mem_append.mpr ⟨hnode, hnodes⟩⟩

theorem RelationPopulate.regular_ofJson? (relation : String) : (document : Json) →
    document.IsReadable → ∀ inclusion,
      (RelationPopulate.ofJson? relation document).value = some inclusion →
        inclusion.IsNamed ∧ ∀ node ∈ inclusion.filterNodes, FilterNode.IsRegular node
  | .boolean _, _ | .string _, _ => by
      simp [RelationPopulate.ofJson?, RelationPopulate.IsNamed, RelationPopulate.filterNodes]
  | .object members, hd => by
      rw [RelationPopulate.value_ofJson?_object]
      rintro _ ⟨rfl⟩
      obtain ⟨hi, hnodes⟩ := Populate.regular_ofMember members hd.2
      refine ⟨hi, List.forall_mem_append.mpr ⟨hnodes, fun node hn => ?_⟩⟩
      obtain ⟨document, hf, hj⟩ := Option.bind_eq_some_iff.mp (Option.mem_toList.mp hn)
      exact FilterNode.isRegular_ofJson? (Json.isReadable_of_find? hd hf) hj
  | .null, _ | .number _, _ | .array _, _ => by simp [RelationPopulate.ofJson?]

theorem Populate.regular_ofMember : (members : List (String × Json)) →
    Json.MembersReadable members →
      Populate.OptionNamed (Populate.ofMember members).value ∧
        ∀ node ∈ Populate.filterNodesOfOption (Populate.ofMember members).value,
          FilterNode.IsRegular node
  | [], _ => ⟨trivial, by simp [Populate.ofMember, Populate.filterNodesOfOption]⟩
  | (name, document) :: rest, hd => by
      unfold Populate.ofMember
      split
      · have hp := Populate.regular_ofJson? document hd.1
        cases h : (Populate.ofJson? document).value with
        | none => exact ⟨trivial, by simp [Populate.filterNodesOfOption]⟩
        | some populate => exact hp populate h
      · exact Populate.regular_ofMember rest hd.2

end

/-- Every intent decoded from a readable document is regular. -/
theorem Intent.isRegular_ofMembers {members : List (String × Json)}
    (hd : (Json.object members).IsReadable) : (Intent.ofMembers members).value.IsRegular := by
  have hp : (Intent.ofMembers members).value.populate = (Populate.ofMember members).value := by
    rw [Populate.ofMember_eq]
    rfl
  obtain ⟨hnamed, hnodes⟩ := Populate.regular_ofMember members hd.2
  refine ⟨List.forall_mem_append.mpr ⟨fun node hn => ?_, hp ▸ hnodes⟩, hp ▸ hnamed, fun he => ?_⟩
  · have hf : (Intent.ofMembers members).value.filters =
        (decodeMember members "filters" FilterNode.ofJson?).value := rfl
    rw [hf, value_decodeMember, Option.mem_toList] at hn
    obtain ⟨document, hm, hj⟩ := Option.bind_eq_some_iff.mp hn
    exact FilterNode.isRegular_ofJson? (Json.isReadable_of_find? hd hm) hj
  · obtain ⟨document, _, hj⟩ := Option.bind_eq_some_iff.mp he
    cases document with
    | object members =>
        simp only [Pagination.ofJson?] at hj
        split at hj
        · simp at hj
        · rename_i hempty
          exact hempty (Option.some.inj hj ▸ rfl)
    | _ => simp [Pagination.ofJson?] at hj

end BracketQuery
