import BracketQuery.Proofs.Document.Sending
import BracketQuery.Proofs.Wire.Place

/-!
Where documents send: each part of a document whose names are plain sends below its own path.
-/

namespace BracketQuery

theorem reaches_of_mem_lowerIndexed {category : Category} {path : KeyPath} {values : List String}
    {p : Param} (h : p ∈ lowerIndexed category path values) : path.Reaches p.key := by
  obtain ⟨i, _, rfl⟩ := List.mem_mapIdx.mp h
  exact (KeyPath.reaches_text (path.index i)).of_child (isPlainName_toString i)

namespace Json

/-! ## Plain names -/

mutual

/-- A document whose objects have plain names, at every depth. -/
def HasPlainNames : Json → Prop
  | .object members => PlainMembers members
  | .array elements => PlainElements elements
  | .null | .boolean _ | .number _ | .string _ => True

def PlainElements : List Json → Prop
  | [] => True
  | element :: rest => element.HasPlainNames ∧ PlainElements rest

def PlainMembers : List (String × Json) → Prop
  | [] => True
  | (name, value) :: rest => (IsPlainName name ∧ value.HasPlainNames) ∧ PlainMembers rest

end

theorem plainMembers_iff : (members : List (String × Json)) →
    (PlainMembers members ↔ ∀ m ∈ members, IsPlainName m.1 ∧ m.2.HasPlainNames)
  | [] => by simp [PlainMembers]
  | (_, _) :: rest => by simp [PlainMembers, plainMembers_iff rest]

/-! ## Filters -/

theorem reaches_of_mem_sendOperand {path : KeyPath} {value : Json} {p : Param}
    (h : p ∈ value.sendOperand path) : path.Reaches p.key := by
  cases value with
  | null | object _ => nomatch h
  | array elements => exact reaches_of_mem_lowerIndexed h
  | boolean _ | number _ | string _ =>
      rw [sendOperand_of_scalar path rfl, List.mem_singleton] at h
      exact h ▸ KeyPath.reaches_text path

mutual

theorem sendValue_reaches (path : KeyPath) (key : String) : (value : Json) →
    value.HasPlainNames → ∀ p ∈ value.sendValue path key, path.Reaches p.key
  | .null, _ => by simp
  | .boolean _, _ | .number _, _ | .string _, _ => by
      intro p hp
      rw [sendValue_of_scalar path key rfl] at hp
      exact reaches_of_mem_sendOperand hp
  | .object members, h => by
      intro p hp
      rw [sendValue_object] at hp
      split at hp
      · obtain ⟨m, hm, hp⟩ := List.mem_flatMap.mp hp
        exact (reaches_of_mem_sendOperand hp).of_child ((plainMembers_iff members).mp h m hm).1
      · obtain ⟨m, hm, hr⟩ := sendMembers_reaches path members h p hp
        exact hr.of_child ((plainMembers_iff members).mp h m hm).1
  | .array elements, h => by
      intro p hp
      rw [sendValue_array] at hp
      split at hp
      · obtain ⟨i, name, _, hn, hr⟩ := sendGroup_reaches path key elements 0 h p hp
        exact (hr.of_child hn).of_child (isPlainName_toString i)
      · exact reaches_of_mem_lowerIndexed hp

theorem sendMembers_reaches (path : KeyPath) : (members : List (String × Json)) →
    PlainMembers members →
      ∀ p ∈ sendMembers path members, ∃ m ∈ members, (path.child m.1).Reaches p.key
  | [], _ => by simp
  | (name, value) :: rest, ⟨⟨_, hv⟩, hr⟩ => by
      intro p hp
      rw [sendMembers_cons] at hp
      rcases List.mem_append.mp hp with hp | hp
      · exact ⟨(name, value), List.mem_cons_self,
          sendValue_reaches (path.child name) name value hv p hp⟩
      · obtain ⟨m, hm, hk⟩ := sendMembers_reaches path rest hr p hp
        exact ⟨m, List.mem_cons_of_mem _ hm, hk⟩

theorem sendGroup_reaches (path : KeyPath) (key : String) : (elements : List Json) → (i : Nat) →
    PlainElements elements → ∀ p ∈ sendGroup path i key elements,
      ∃ j name, i ≤ j ∧ IsPlainName name ∧ ((path.index j).child name).Reaches p.key
  | [], _, _ => by simp
  | .object members :: rest, i, ⟨hm, hr⟩ => by
      intro p hp
      rw [sendGroup_object] at hp
      rcases List.mem_append.mp hp with hp | hp
      · obtain ⟨m, hmem, hk⟩ := sendMembers_reaches (path.index i) members hm p hp
        exact ⟨i, m.1, Nat.le_refl i, ((plainMembers_iff members).mp hm m hmem).1, hk⟩
      · obtain ⟨j, name, hj, hn⟩ := sendGroup_reaches path key rest (i + 1) hr p hp
        exact ⟨j, name, Nat.le_of_succ_le hj, hn⟩
  | .null :: rest, i, ⟨_, hr⟩ | .boolean _ :: rest, i, ⟨_, hr⟩ | .number _ :: rest, i, ⟨_, hr⟩
  | .string _ :: rest, i, ⟨_, hr⟩ | .array _ :: rest, i, ⟨_, hr⟩ =>
      sendGroup_reaches path key rest i hr

end

theorem sendFilters_reaches (path : KeyPath) {value : Json} (h : value.HasPlainNames) :
    ∀ p ∈ value.sendFilters path, path.Reaches p.key := by
  intro p hp
  cases value with
  | object members =>
      obtain ⟨m, hm, hr⟩ := sendMembers_reaches path members h p hp
      exact hr.of_child ((plainMembers_iff members).mp h m hm).1
  | _ => nomatch hp

/-! ## Inclusions -/

theorem hasPlainNames_of_find? {name : String} {value : Json} {members : List (String × Json)}
    (h : PlainMembers members) (hf : find? name members = some value) : value.HasPlainNames :=
  ((plainMembers_iff members).mp h _ (mem_of_find? hf)).2

theorem sizeOf_lt_of_find? {name : String} {value : Json} {members : List (String × Json)}
    (hf : find? name members = some value) : sizeOf value < sizeOf members := by
  have hm := List.sizeOf_lt_of_mem (mem_of_find? hf)
  simp only [Prod.mk.sizeOf_spec] at hm
  omega

theorem exists_of_mem_sendMember {send : Json → Params} {name : String}
    {members : List (String × Json)} {p : Param} (h : p ∈ sendMember send name members) :
    ∃ value, find? name members = some value ∧ p ∈ send value := by
  unfold sendMember at h
  split at h
  · rename_i value hf
    exact ⟨value, hf, h⟩
  · nomatch h

mutual

theorem sendInclusion_reaches (path : KeyPath) : (value : Json) →
    value.HasPlainNames → ∀ p ∈ value.sendInclusion path, path.Reaches p.key
  | .null, _ | .boolean false, _ | .number _, _ => by
      intro p hp
      nomatch hp
  | .boolean true, _ => by
      intro p hp
      obtain rfl := List.mem_singleton.mp hp
      exact KeyPath.reaches_text path
  | .string name, _ => by
      intro p hp
      rw [sendInclusion_string] at hp
      split at hp
      · nomatch hp
      · obtain rfl := List.mem_singleton.mp hp
        exact KeyPath.reaches_text path
  | .array _, _ => fun _ hp => reaches_of_mem_lowerIndexed hp
  | .object members, h => by
      intro p hp
      obtain ⟨m, hm, hr⟩ := sendRelations_reaches path members h p hp
      exact hr.of_child ((plainMembers_iff members).mp h m hm).1
termination_by value => sizeOf value

theorem sendRelations_reaches (path : KeyPath) : (members : List (String × Json)) →
    PlainMembers members →
      ∀ p ∈ sendRelations path members, ∃ m ∈ members, (path.child m.1).Reaches p.key
  | [], _ => by simp
  | (name, value) :: rest, ⟨⟨_, hv⟩, hr⟩ => by
      intro p hp
      rw [sendRelations_cons] at hp
      rcases List.mem_append.mp hp with hp | hp
      · exact ⟨(name, value), List.mem_cons_self,
          sendRelation_reaches (path.child name) name value hv p hp⟩
      · obtain ⟨m, hm, hk⟩ := sendRelations_reaches path rest hr p hp
        exact ⟨m, List.mem_cons_of_mem _ hm, hk⟩
termination_by members => sizeOf members

theorem sendRelation_reaches (path : KeyPath) (relation : String) : (value : Json) →
    value.HasPlainNames → ∀ p ∈ value.sendRelation path relation, path.Reaches p.key
  | .null, _ | .number _, _ | .array _, _ => by
      intro p hp
      nomatch hp
  | .boolean _, _ | .string _, _ => by
      intro p hp
      obtain rfl := List.mem_singleton.mp hp
      exact KeyPath.reaches_text path
  | .object members, h => by
      intro p hp
      rw [sendRelation_object] at hp
      split at hp
      · obtain rfl := List.mem_singleton.mp hp
        exact KeyPath.reaches_text path
      · rw [PopulateShape.lower_ofMembers] at hp
        simp only [List.mem_append, List.mem_map] at hp
        rcases hp with ((hp | hp) | hp) | ⟨p, hp, rfl⟩
        · exact (reaches_of_mem_lowerIndexed hp).of_child (by decide)
        · obtain ⟨value, hf, hp⟩ := exists_of_mem_sendMember hp
          have hlt := sizeOf_lt_of_find? hf
          exact (sendInclusion_reaches _ value (hasPlainNames_of_find? h hf) p hp).of_child
            (by decide)
        · exact (reaches_of_mem_lowerIndexed hp).of_child (by decide)
        · obtain ⟨value, hf, hp⟩ := exists_of_mem_sendMember hp
          exact (sendFilters_reaches _ (hasPlainNames_of_find? h hf) p hp).of_child (by decide)
termination_by value => sizeOf value

end

end Json

end BracketQuery
