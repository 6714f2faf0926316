import Mathlib.Data.List.TakeWhile
import BracketQuery.Proofs.Wire.Category
import BracketQuery.Proofs.Wire.Place

/-!
Which keys lie at a path or below it, whatever the names in them hold. Every part of an intent sends
at its own path and below it, so the keys of a category lie at its root and below.
-/

namespace BracketQuery

namespace KeyPath

/-- The key is that of the path, or goes on below it with an opening bracket. -/
def Covers (path : KeyPath) (key : String) : Prop :=
  key = path.text ∨ ∃ below, key = path.text ++ "[" ++ below

variable {path : KeyPath} {name key : String}

theorem covers_text (path : KeyPath) : path.Covers path.text := .inl rfl

/-- A key below a name goes on with the name and a closing bracket. -/
theorem Covers.exists_toList (h : (path.child name).Covers key) :
    ∃ below, key.toList = path.text.toList ++ '[' :: (name.toList ++ ']' :: below) := by
  rcases h with rfl | ⟨below, rfl⟩
  · exact ⟨[], by simp [bracketed]⟩
  · exact ⟨'[' :: below.toList, by simp [bracketed]⟩

theorem Covers.of_child (h : (path.child name).Covers key) : path.Covers key := by
  obtain ⟨below, hl⟩ := h.exists_toList
  refine .inr ⟨name ++ "]" ++ String.ofList below, String.toList_inj.mp ?_⟩
  simp [hl]

/-- A key lies below one name only. -/
theorem Covers.name_eq {other : String} (hn : ']' ∉ name.toList) (ho : ']' ∉ other.toList)
    (h : (path.child name).Covers key) (h' : (path.child other).Covers key) : name = other := by
  obtain ⟨below, hl⟩ := h.exists_toList
  obtain ⟨below', hl'⟩ := h'.exists_toList
  rw [hl] at hl'
  simp only [List.append_cancel_left_eq, List.cons.injEq, true_and] at hl'
  exact name_eq_of_append_eq hn ho hl'

theorem Covers.index_eq {i j : Nat} (h : (path.index i).Covers key)
    (h' : (path.index j).Covers key) : i = j :=
  toString_inj (h.name_eq (isPlainName_toString i).1 (isPlainName_toString j).1 h')

/-- Roots without a bracket have no key in common. -/
theorem Covers.root_eq {root other : String} (hr : '[' ∉ root.toList) (ho : '[' ∉ other.toList)
    (h : (ofRoot root).Covers key) (h' : (ofRoot other).Covers key) : root = other := by
  have starts {root : String} (hr : '[' ∉ root.toList) (h : (ofRoot root).Covers key) :
      key.toList.takeWhile (· != '[') = root.toList := by
    have hp : ∀ c ∈ root.toList, (c != '[') = true := by
      intro c hc
      exact bne_iff_ne.mpr (ne_of_mem_of_not_mem hc hr)
    rcases h with rfl | ⟨below, rfl⟩
    · exact List.takeWhile_eq_self_iff.mpr hp
    · simp [List.takeWhile_append_of_pos hp]
  exact String.toList_inj.mp ((starts hr h).symm.trans (starts ho h'))

end KeyPath

/-! ## Trees -/

theorem lowerIndexed_covers {category : Category} {path : KeyPath} {values : List String}
    {p : Param} (h : p ∈ lowerIndexed category path values) :
    ∃ i, p.key = (path.index i).text := by
  obtain ⟨i, _, rfl⟩ := List.mem_mapIdx.mp h
  exact ⟨i, rfl⟩

theorem covers_of_mem_lowerIndexed {category : Category} {path : KeyPath} {values : List String}
    {p : Param} (h : p ∈ lowerIndexed category path values) : path.Covers p.key := by
  obtain ⟨i, hi⟩ := lowerIndexed_covers h
  exact hi ▸ (KeyPath.covers_text (path.index i)).of_child

theorem Operand.lower_covers (path : KeyPath) : (operand : Operand) →
    ∀ p ∈ operand.lower path, path.Covers p.key
  | .scalar _ => fun _ hp => List.mem_singleton.mp hp ▸ path.covers_text
  | .list _ => fun _ hp => covers_of_mem_lowerIndexed hp

mutual

theorem FilterValue.lower_covers (path : KeyPath) : (value : FilterValue) →
    ∀ p ∈ value.lower path, path.Covers p.key
  | .operators comparisons => by
      intro p hp
      simp only [FilterValue.lower, List.mem_flatMap] at hp
      obtain ⟨c, _, hp⟩ := hp
      exact (c.2.lower_covers (path.child c.1.spelling) p hp).of_child
  | .nested node => by
      intro p hp
      simp only [FilterValue.lower] at hp
      obtain ⟨_, _, hc⟩ := FilterNode.lower_covers path node p hp
      exact hc.of_child
  | .scalar _ => by
      intro p hp
      simp only [FilterValue.lower] at hp
      exact List.mem_singleton.mp hp ▸ path.covers_text
  | .list _ => by
      intro p hp
      simp only [FilterValue.lower] at hp
      exact covers_of_mem_lowerIndexed hp
  | .group members => by
      intro p hp
      simp only [FilterValue.lower] at hp
      obtain ⟨_, _, hc⟩ := FilterNode.lowerMembers_covers path 0 members p hp
      exact hc.of_child

/-- A node sends below its keys. -/
theorem FilterNode.lower_covers (path : KeyPath) : (node : FilterNode) →
    ∀ p ∈ FilterNode.lower path node, ∃ entry ∈ node, (path.child entry.1).Covers p.key
  | [] => by simp [FilterNode.lower]
  | (key, value) :: rest => by
      intro p hp
      simp only [FilterNode.lower, List.mem_append] at hp
      rcases hp with hp | hp
      · exact ⟨(key, value), List.mem_cons_self,
          FilterValue.lower_covers (path.child key) value p hp⟩
      · obtain ⟨entry, he, hc⟩ := FilterNode.lower_covers path rest p hp
        exact ⟨entry, List.mem_cons_of_mem _ he, hc⟩

/-- The members of a group send below their places. -/
theorem FilterNode.lowerMembers_covers (path : KeyPath) (i : Nat) : (members : List FilterNode) →
    ∀ p ∈ FilterNode.lowerMembers path i members, ∃ j, i ≤ j ∧ (path.index j).Covers p.key
  | [] => by simp [FilterNode.lowerMembers]
  | node :: rest => by
      intro p hp
      simp only [FilterNode.lowerMembers, List.mem_append] at hp
      rcases hp with hp | hp
      · obtain ⟨_, _, hc⟩ := FilterNode.lower_covers (path.index i) node p hp
        exact ⟨i, Nat.le_refl i, hc.of_child⟩
      · obtain ⟨j, hj, hc⟩ := FilterNode.lowerMembers_covers path (i + 1) rest p hp
        exact ⟨j, Nat.le_of_succ_le hj, hc⟩

end

theorem FilterNode.covers_of_mem_lower {path : KeyPath} {node : FilterNode} {p : Param}
    (h : p ∈ FilterNode.lower path node) : path.Covers p.key := by
  obtain ⟨_, _, hc⟩ := FilterNode.lower_covers path node p h
  exact hc.of_child

theorem FilterNode.lowerOfRelation_covers (path : KeyPath) (node : FilterNode) :
    ∀ p ∈ FilterNode.lowerOfRelation path node, path.Covers p.key := by
  intro p hp
  obtain ⟨q, hq, rfl⟩ := List.mem_map.mp hp
  have hc := FilterNode.covers_of_mem_lower hq
  exact hc

mutual

/-- What is included is sent at the path of the inclusion and below it. -/
theorem Populate.lower_covers (path : KeyPath) : (included : Populate) →
    ∀ p ∈ included.lower path, path.Covers p.key
  | .all => by
      intro p hp
      simp only [Populate.lower] at hp
      exact List.mem_singleton.mp hp ▸ path.covers_text
  | .relation _ => by
      intro p hp
      simp only [Populate.lower] at hp
      split at hp
      · nomatch hp
      · exact List.mem_singleton.mp hp ▸ path.covers_text
  | .relations _ => by
      intro p hp
      simp only [Populate.lower] at hp
      exact covers_of_mem_lowerIndexed hp
  | .shaped entries => by
      intro p hp
      simp only [Populate.lower] at hp
      obtain ⟨_, _, hc⟩ := Populate.lowerRelations_covers path entries p hp
      exact hc.of_child

theorem Populate.lowerRelations_covers (path : KeyPath) :
    (entries : List (String × RelationPopulate)) →
      ∀ p ∈ Populate.lowerRelations path entries,
        ∃ entry ∈ entries, (path.child entry.1).Covers p.key
  | [] => by simp [Populate.lowerRelations]
  | (name, inclusion) :: rest => by
      intro p hp
      simp only [Populate.lowerRelations, List.mem_append] at hp
      rcases hp with hp | hp
      · exact ⟨(name, inclusion), List.mem_cons_self,
          RelationPopulate.lower_covers (path.child name) inclusion p hp⟩
      · obtain ⟨entry, he, hc⟩ := Populate.lowerRelations_covers path rest p hp
        exact ⟨entry, List.mem_cons_of_mem _ he, hc⟩

theorem RelationPopulate.lower_covers (path : KeyPath) : (inclusion : RelationPopulate) →
    ∀ p ∈ inclusion.lower path, path.Covers p.key
  | .flag _ | .name _ => by
      intro p hp
      simp only [RelationPopulate.lower] at hp
      exact List.mem_singleton.mp hp ▸ path.covers_text
  | .shape shape => by
      intro p hp
      simp only [RelationPopulate.lower] at hp
      split at hp
      · exact List.mem_singleton.mp hp ▸ path.covers_text
      · exact PopulateShape.lower_covers path shape p hp

theorem PopulateShape.lower_covers (path : KeyPath) : (shape : PopulateShape) →
    ∀ p ∈ shape.lower path, path.Covers p.key
  | .mk _ inner _ conditions => by
      intro p hp
      simp only [PopulateShape.lower, List.mem_append] at hp
      rcases hp with ((hp | hp) | hp) | hp
      · exact (covers_of_mem_lowerIndexed hp).of_child
      · exact (Populate.lowerOption_covers (path.child "populate") inner p hp).of_child
      · exact (covers_of_mem_lowerIndexed hp).of_child
      · cases conditions with
        | none => nomatch hp
        | some node =>
            exact (FilterNode.lowerOfRelation_covers (path.child "filters") node p hp).of_child

theorem Populate.lowerOption_covers (path : KeyPath) : (included : Option Populate) →
    ∀ p ∈ Populate.lowerOption path included, path.Covers p.key
  | none => by simp [Populate.lowerOption]
  | some value => by
      simpa only [Populate.lowerOption] using Populate.lower_covers path value

end

/-! ## Intents -/

theorem Pagination.lower_covers (pagination : Pagination) :
    ∀ p ∈ pagination.lower, (KeyPath.ofRoot Category.pagination.root).Covers p.key := by
  intro p hp
  obtain ⟨_, _, he⟩ := List.mem_filterMap.mp hp
  obtain ⟨_, _, rfl⟩ := Option.map_eq_some_iff.mp he
  exact (KeyPath.covers_text _).of_child

theorem lowerText_covers (category : Category) : (text : Option String) →
    ∀ p ∈ lowerText category text, (KeyPath.ofRoot category.root).Covers p.key
  | none => by simp [lowerText]
  | some value => by
      intro p hp
      simp only [lowerText] at hp
      split at hp
      · nomatch hp
      · exact List.mem_singleton.mp hp ▸ KeyPath.covers_text _

/-- The member of a category sends at the root of the category and below it. -/
theorem Intent.lowerOf_covers (i : Intent) : (category : Category) →
    ∀ p ∈ i.lowerOf category, (KeyPath.ofRoot category.root).Covers p.key
  | .filters => fun _ hp => FilterNode.covers_of_mem_lower hp
  | .populate => Populate.lowerOption_covers _ _
  | .sort | .fields => fun _ hp => covers_of_mem_lowerIndexed hp
  | .pagination => by
      intro p hp
      cases h : i.pagination with
      | none => simp [lowerOf, h] at hp
      | some pagination =>
          simp only [lowerOf, h] at hp
          exact pagination.lower_covers p hp
  | .locale | .publicationState | .search => lowerText_covers _ _

end BracketQuery
