import BracketQuery.Proofs.Document.RoundTrip
import BracketQuery.Proofs.Normalization.Reconciliation
import BracketQuery.Proofs.Normalization.Regular
import BracketQuery.Proofs.Wire.Part

/-!
Requests that are written as documents after normalization and compiled when they are read again.
What they send is a part of what the normalized intent sends. It is all of it exactly if no list of
values stands under a combinator among comparisons none of whose operators is known: such
comparisons are read as conditions, and the list as a group without members.
-/

namespace BracketQuery

/-- A list of values under a combinator, where a group is expected. -/
def Operand.IsMistaken (key : String) (operand : Operand) : Prop :=
  IsCombinator key ∧ ∃ values, operand = .list values ∧ values ≠ []

/-- Comparisons that send the same when they are written and read again: they are recognized, or
none of their lists is mistaken for a group. -/
def SentAgain (comparisons : List (Operator × Operand)) : Prop :=
  Recognized comparisons ∨ ∀ c ∈ comparisons, ¬ c.2.IsMistaken c.1.spelling

/-! ## Filter trees -/

theorem Operand.lower_asCondition (path : KeyPath) (key : String) (operand : Operand) :
    Params.PartOf ((operand.asCondition key).lower path) (operand.lower path)
      (¬ operand.IsMistaken key) := by
  cases operand with
  | scalar value => exact (Params.PartOf.refl _).congr (by simp [IsMistaken])
  | list values =>
      by_cases hk : IsCombinator key
      · rw [asCondition, if_pos hk]
        refine (Params.PartOf.nil _).congr ?_
        simp [Operand.lower, lowerIndexed_eq_nil_iff, IsMistaken, hk]
      · rw [asCondition, if_neg hk]
        exact (Params.PartOf.refl _).congr (by simp [IsMistaken, hk])

theorem FilterNode.lower_asConditions (path : KeyPath) (comparisons : List (Operator × Operand)) :
    Params.PartOf
      (FilterNode.lower path
        (comparisons.map fun c => (c.1.spelling, c.2.asCondition c.1.spelling)))
      (comparisons.flatMap fun c => c.2.lower (path.child c.1.spelling))
      (∀ c ∈ comparisons, ¬ c.2.IsMistaken c.1.spelling) := by
  induction comparisons with
  | nil => exact (Params.PartOf.refl _).congr (by simp)
  | cons c rest ih =>
      rw [List.map_cons, FilterNode.lower, List.flatMap_cons, List.forall_mem_cons]
      exact (Operand.lower_asCondition _ _ c.2).append ih

mutual

theorem FilterValue.lower_reread (path : KeyPath) (key : String) : (value : FilterValue) →
    value.IsRegular key →
      Params.PartOf (value.reread.lower path) (value.lower path)
        (∀ comparisons ∈ value.fieldComparisons, SentAgain comparisons)
  | .operators comparisons, ⟨_, hc⟩ => by
      simp only [FilterValue.reread, FilterValue.fieldComparisons, List.mem_singleton, forall_eq,
        SentAgain, recognized_iff hc]
      split
      · rename_i h
        exact (Params.PartOf.refl _).congr (by simp [h])
      · rename_i h
        exact (FilterNode.lower_asConditions path comparisons).congr (by simp [h])
  | .nested node, ⟨hn, _⟩ => FilterNode.lower_reread path node hn
  | .scalar _, _ => (Params.PartOf.refl _).congr (by simp [FilterValue.fieldComparisons])
  | .list _, _ => (Params.PartOf.refl _).congr (by simp [FilterValue.fieldComparisons])
  | .group members, ⟨_, hm⟩ => FilterNode.lowerMembers_reread path 0 members hm

theorem FilterNode.lower_reread (path : KeyPath) : (node : FilterNode) →
    FilterNode.IsRegular node →
      Params.PartOf (FilterNode.lower path (FilterNode.reread node)) (FilterNode.lower path node)
        (∀ comparisons ∈ FilterNode.fieldComparisons node, SentAgain comparisons)
  | [], _ => (Params.PartOf.refl _).congr (by simp [FilterNode.fieldComparisons])
  | (key, value) :: rest, ⟨_, hv, hr⟩ =>
      ((FilterValue.lower_reread (path.child key) key value hv).append
        (FilterNode.lower_reread path rest hr)).congr List.forall_mem_append.symm

theorem FilterNode.lowerMembers_reread (path : KeyPath) (i : Nat) :
    (members : List FilterNode) → FilterNode.AllRegular members →
      Params.PartOf (FilterNode.lowerMembers path i (FilterNode.rereadMembers members))
        (FilterNode.lowerMembers path i members)
        (∀ comparisons ∈ FilterNode.fieldComparisonsOfMembers members, SentAgain comparisons)
  | [], _ => (Params.PartOf.refl _).congr (by simp [FilterNode.fieldComparisonsOfMembers])
  | node :: rest, ⟨hn, hr⟩ =>
      ((FilterNode.lower_reread (path.index i) node hn).append
        (FilterNode.lowerMembers_reread path (i + 1) rest hr)).congr List.forall_mem_append.symm

end

/-! ## Inclusions -/

section

variable {f : FilterNode → FilterNode} {complete : FilterNode → Prop}

/-- Replacing a filter tree by another sends a part of it. -/
def SendsPart (f : FilterNode → FilterNode) (complete : FilterNode → Prop) (node : FilterNode) :
    Prop :=
  ∀ path, Params.PartOf (FilterNode.lower path (f node)) (FilterNode.lower path node)
    (complete node)

theorem PopulateShape.isEmpty_mapFilters (shape : PopulateShape) :
    (shape.mapFilters f).isEmpty = shape.isEmpty := by
  obtain ⟨fields, inner, sort, filters⟩ := shape
  cases inner <;> cases filters <;> rfl

theorem partOf_ofOption (send : FilterNode → Params) : (filters : Option FilterNode) →
    (∀ node ∈ filters.toList, Params.PartOf (send (f node)) (send node) (complete node)) →
      Params.PartOf
        (match filters.map f with
          | some node => send node
          | none => [])
        (match filters with
          | some node => send node
          | none => [])
        (∀ node ∈ filters.toList, complete node)
  | none, _ => (Params.PartOf.refl _).congr (by simp)
  | some node, h => (h node List.mem_cons_self).congr (by simp)

mutual

theorem Populate.lower_mapFilters (path : KeyPath) : (populate : Populate) →
    (∀ node ∈ populate.filterNodes, SendsPart f complete node) →
      Params.PartOf ((populate.mapFilters f).lower path) (populate.lower path)
        (∀ node ∈ populate.filterNodes, complete node)
  | .shaped relations, h => Populate.lowerRelations_mapFilters path relations h
  | .all, _ | .relation _, _ | .relations _, _ =>
      (Params.PartOf.refl _).congr (by simp [Populate.filterNodes])

theorem Populate.lowerRelations_mapFilters (path : KeyPath) :
    (relations : List (String × RelationPopulate)) →
      (∀ node ∈ Populate.filterNodesOfRelations relations, SendsPart f complete node) →
        Params.PartOf (Populate.lowerRelations path (Populate.mapFiltersOfRelations f relations))
          (Populate.lowerRelations path relations)
          (∀ node ∈ Populate.filterNodesOfRelations relations, complete node)
  | [], _ => (Params.PartOf.refl _).congr (by simp [Populate.filterNodesOfRelations])
  | (name, inclusion) :: rest, h => by
      obtain ⟨hi, hr⟩ := List.forall_mem_append.mp h
      exact ((RelationPopulate.lower_mapFilters (path.child name) inclusion hi).append
        (Populate.lowerRelations_mapFilters path rest hr)).congr List.forall_mem_append.symm

theorem RelationPopulate.lower_mapFilters (path : KeyPath) : (inclusion : RelationPopulate) →
    (∀ node ∈ inclusion.filterNodes, SendsPart f complete node) →
      Params.PartOf ((inclusion.mapFilters f).lower path) (inclusion.lower path)
        (∀ node ∈ inclusion.filterNodes, complete node)
  | .flag _, _ | .name _, _ =>
      (Params.PartOf.refl _).congr (by simp [RelationPopulate.filterNodes])
  | .shape shape, h => by
      simp only [RelationPopulate.mapFilters, RelationPopulate.lower,
        PopulateShape.isEmpty_mapFilters, RelationPopulate.filterNodes]
      split
      · rename_i he
        obtain rfl := eq_empty_of_isEmpty he
        exact (Params.PartOf.refl _).congr
          (by simp [PopulateShape.empty, PopulateShape.filterNodes, Populate.filterNodesOfOption])
      · exact PopulateShape.lower_mapFilters path shape h

theorem PopulateShape.lower_mapFilters (path : KeyPath) : (shape : PopulateShape) →
    (∀ node ∈ shape.filterNodes, SendsPart f complete node) →
      Params.PartOf ((shape.mapFilters f).lower path) (shape.lower path)
        (∀ node ∈ shape.filterNodes, complete node)
  | .mk fields inner sort filters, h => by
      obtain ⟨hi, hf⟩ := List.forall_mem_append.mp h
      have hinner := Populate.lowerOption_mapFilters (path.child "populate") inner hi
      have hfilters := partOf_ofOption (FilterNode.lowerOfRelation (path.child "filters")) filters
        fun node hn => (hf node hn _).map fun p => { p with category := .populate }
      have hshape := (((Params.PartOf.refl (lowerIndexed .populate (path.child "fields") fields)).append
        hinner).append (Params.PartOf.refl (lowerIndexed .populate (path.child "sort") sort))).append
          hfilters
      refine hshape.congr ?_
      rw [PopulateShape.filterNodes, List.forall_mem_append, true_and, and_true]

theorem Populate.lowerOption_mapFilters (path : KeyPath) : (populate : Option Populate) →
    (∀ node ∈ Populate.filterNodesOfOption populate, SendsPart f complete node) →
      Params.PartOf (Populate.lowerOption path (Populate.mapFiltersOfOption f populate))
        (Populate.lowerOption path populate)
        (∀ node ∈ Populate.filterNodesOfOption populate, complete node)
  | none, _ => (Params.PartOf.refl _).congr (by simp [Populate.filterNodesOfOption])
  | some populate, h => Populate.lower_mapFilters path populate h

end

end

/-! ## Intents -/

theorem Intent.lowerOf_filters (i : Intent) :
    i.lowerOf .filters =
      match i.filters with
      | some node => FilterNode.lower (KeyPath.ofRoot Category.filters.root) node
      | none => [] := by
  unfold Intent.lowerOf
  cases i.filters <;> rfl

/-- What is sent by a regular intent that was written and read again. -/
theorem Intent.lower_reread {i : Intent} (h : i.IsRegular) :
    Params.PartOf i.reread.lower i.lower
      (∀ comparisons ∈ i.fieldComparisons, SentAgain comparisons) := by
  obtain ⟨hf, hp⟩ := List.forall_mem_append.mp h.nodes
  have sends {node : FilterNode} (hn : FilterNode.IsRegular node) :
      SendsPart FilterNode.reread
        (fun node => ∀ comparisons ∈ FilterNode.fieldComparisons node, SentAgain comparisons) node :=
    fun path => FilterNode.lower_reread path node hn
  have hfilters := partOf_ofOption (FilterNode.lower (KeyPath.ofRoot Category.filters.root))
    i.filters fun node hn => sends (hf node hn) _
  have hpopulate := Populate.lowerOption_mapFilters (KeyPath.ofRoot Category.populate.root)
    i.populate fun node hn => sends (hp node hn)
  have hothers : i.reread.lowerOthers = i.lowerOthers := rfl
  have hall := (hfilters.append hpopulate).append (.refl i.lowerOthers)
  rw [i.reread.lower_eq_append, i.lower_eq_append, hothers, i.lowerOf_filters,
    i.reread.lowerOf_filters]
  refine hall.congr ?_
  simp only [and_true, Intent.fieldComparisons, Intent.filterNodes, List.flatMap_append,
    List.forall_mem_append, List.forall_mem_flatMap]

/-- A normalized intent that is written as a document and read again compiles to the same query
string exactly if none of its comparisons is lost on the way. -/
theorem Intent.compile_read_write_iff (members : List (String × Json))
    (hd : (Json.object members).IsReadable) (o : Normalization.Options) :
    let left := ((Intent.ofMembers members).value.normalize o).1
    ((Intent.ofJson? left.toJson).map fun again => again.value.compile) = .ok left.compile ↔
      ∀ comparisons ∈ left.fieldComparisons, SentAgain comparisons := by
  intro left
  have hr : left.IsRegular := Intent.isRegular_normalize (Intent.isRegular_ofMembers hd)
  have hread : (Intent.ofJson? left.toJson).map (fun again => again.value.compile) =
      .ok left.reread.compile := by
    have h := congrArg (Except.map Intent.compile) (Intent.value_ofJson?_toJson hr)
    cases hj : Intent.ofJson? left.toJson with
    | error _ => simp [hj, Except.map] at h
    | ok again => simpa [hj, Except.map] using h
  rw [hread, Except.ok.injEq]
  exact (Intent.lower_reread hr).queryString_eq_iff

/-- Comparisons left without a known operator send the same when they come back as conditions. -/
theorem Intent.unknown_comparison_sent_again :
    let members := [("filters", Json.object [("type", .object [("$eq", .string "bogus"),
      ("$like", .array [.string "sale", .null, .boolean true])])])]
    let left := ((Intent.ofMembers members).value.normalize Normalization.Options.standard).1
    (Json.object members).IsReadable ∧
      ((Intent.ofJson? left.toJson).map fun again => again.value.compile) = .ok left.compile := by
  intro members left
  have hd : (Json.object members).IsReadable := by
    simp [members, Json.IsReadable, Json.MembersReadable, Json.ElementsReadable]
  have hc : left.fieldComparisons =
      [[(.other "$like", .list [.string "sale", .boolean true])]] := by
    simp only [left, Normalization.Options.standard_eq]
    decide +kernel
  refine ⟨hd, (Intent.compile_read_write_iff members hd _).mpr ?_⟩
  intro comparisons hm
  rw [hc, List.mem_singleton] at hm
  refine .inr fun c h => ?_
  rw [hm, List.mem_singleton] at h
  rw [h]
  exact fun hmistaken => absurd hmistaken.1 (by decide)

/-- A list under `$and` among comparisons of which the only known one is dropped is lost. -/
theorem Intent.list_lost_as_group :
    let members := [("filters", Json.object [("type", .object [("$eq", .string "bogus"),
      ("$and", .array [.string "sale"])])])]
    let left := ((Intent.ofMembers members).value.normalize Normalization.Options.standard).1
    left.compile = "filters[type][$and][0]=sale" ∧
      ((Intent.ofJson? left.toJson).map fun again => again.value.compile) = .ok "" := by
  rw [Normalization.Options.standard_eq]
  decide +kernel

end BracketQuery
