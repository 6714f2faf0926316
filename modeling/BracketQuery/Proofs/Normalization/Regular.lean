import BracketQuery.Proofs.Document.Regular
import BracketQuery.Proofs.Normalization.Site

/-!
Normalization keeps intents regular: it leaves keys, operators and the kinds of conditions as they
are, removes comparisons at most, and puts texts in the place of values.
-/

namespace BracketQuery

open Normalization

variable (o : Options)

/-! ## Comparisons -/

theorem Normalization.Options.isFinite_expanded {value : Scalar} (h : value.IsFinite) :
    (o.expanded value).IsFinite := by
  cases hi : o.instant? value with
  | none => rwa [o.expanded_of_none hi]
  | some _ =>
      rw [o.expanded_of_some hi]
      trivial

theorem Normalization.Options.isFinite_of_mem_codes {values : List Scalar} {value : Scalar}
    (h : value ∈ o.codes values) : value.IsFinite := by
  obtain ⟨source, _, hs⟩ := List.mem_filterMap.mp h
  obtain ⟨code, _, rfl⟩ := Option.map_eq_some_iff.mp hs
  trivial

variable {o}

theorem Site.isFinite_of_normalized? : {site left : Site} → site.normalized? o = some left →
    site.operand.IsFinite → left.operand.IsFinite
  | ⟨_, true, .list _⟩, _, h, _ => by
      obtain rfl := Option.some.inj h
      exact fun _ => o.isFinite_of_mem_codes
  | ⟨_, true, .scalar _⟩, _, h, _ => by
      obtain ⟨_, _, rfl⟩ := Option.map_eq_some_iff.mp h
      trivial
  | ⟨_, false, .list _⟩, _, h, hf => by
      obtain rfl := Option.some.inj h
      exact List.forall_mem_map.mpr fun value hv => o.isFinite_expanded (hf value hv)
  | ⟨_, false, .scalar _⟩, _, h, hf => by
      obtain rfl := Option.some.inj h
      exact o.isFinite_expanded hf

namespace Follows

variable {ofTypeField : Bool} {path : KeyPath}
  {f : Operator × Operand → Changed (Option (Operator × Operand))}

/-- What is left of a comparison has its operator. -/
theorem of_value (h : Follows o ofTypeField path f) {c left : Operator × Operand}
    (hv : (f c).value = some left) : left.1 = c.1 ∧ (c.2.IsFinite → left.2.IsFinite) := by
  rw [(h c).1] at hv
  obtain ⟨site, hs, rfl⟩ := Option.map_eq_some_iff.mp hv
  exact ⟨rfl, Site.isFinite_of_normalized? hs⟩

theorem map_spelling_sublist (h : Follows o ofTypeField path f)
    (comparisons : List (Operator × Operand)) :
    ((Traced.filterMap f comparisons).value.map fun c => c.1.spelling).Sublist
      (comparisons.map fun c => c.1.spelling) := by
  rw [Traced.value_filterMap]
  induction comparisons with
  | nil => exact List.Sublist.slnil
  | cons c rest ih =>
      rw [List.filterMap_cons]
      cases hv : (f c).value with
      | none => exact ih.cons _
      | some left =>
          simp only [List.map_cons, (h.of_value hv).1]
          exact ih.cons_cons _

theorem isRegular (h : Follows o ofTypeField path f) (key : String)
    {comparisons : List (Operator × Operand)}
    (hr : (FilterValue.operators comparisons).IsRegular key) :
    (FilterValue.operators (Traced.filterMap f comparisons).value).IsRegular key := by
  obtain ⟨hn, hc⟩ := hr
  refine ⟨hn.sublist (h.map_spelling_sublist comparisons), fun left hl => ?_⟩
  rw [Traced.value_filterMap] at hl
  obtain ⟨c, hm, hv⟩ := List.mem_filterMap.mp hl
  obtain ⟨ho, hf⟩ := h.of_value hv
  exact ⟨ho ▸ (hc c hm).1, hf (hc c hm).2⟩

end Follows

/-! ## Filter trees -/

theorem map_fst_filterNode (path : KeyPath) (node : FilterNode) :
    (filterNode o path node).value.map Prod.fst = node.map Prod.fst := by
  induction node with
  | nil => rfl
  | cons entry rest ih =>
      simp only [filterNode, Traced.value_bind, Traced.value_pure, List.map_cons]
      rw [ih]

mutual

theorem isRegular_filterValue (path : KeyPath) (key : String) : (value : FilterValue) →
    value.IsRegular key → (filterValue o path key value).value.IsRegular key
  | .operators comparisons, h => by
      simp only [filterValue, Traced.value_bind, Traced.value_pure]
      exact (comparisons_follow o path key).isRegular key h
  | .nested node, ⟨hn, hk⟩ => by
      simp only [filterValue, Traced.value_bind, Traced.value_pure]
      refine ⟨isRegular_filterNode path node hn, fun entry he => ?_⟩
      have hm := List.mem_map_of_mem (f := Prod.fst) he
      rw [map_fst_filterNode] at hm
      obtain ⟨source, hs, hkey⟩ := List.mem_map.mp hm
      exact hkey ▸ hk source hs
  | .scalar value, h => by
      simp only [filterValue, Traced.value_bind, Traced.value_pure, value_scalar]
      exact o.isFinite_expanded h
  | .list values, ⟨hk, hv⟩ => by
      simp only [filterValue, Traced.value_bind, Traced.value_pure, value_scalars]
      exact ⟨hk, List.forall_mem_map.mpr fun value hm => o.isFinite_expanded (hv value hm)⟩
  | .group members, ⟨hk, hm⟩ => by
      simp only [filterValue, Traced.value_bind, Traced.value_pure]
      exact ⟨hk, allRegular_groupMembers path 0 members hm⟩

theorem isRegular_filterNode (path : KeyPath) : (node : FilterNode) →
    FilterNode.IsRegular node → FilterNode.IsRegular (filterNode o path node).value
  | [], _ => trivial
  | (key, value) :: rest, ⟨hk, hv, hr⟩ => by
      simp only [filterNode, Traced.value_bind, Traced.value_pure]
      refine ⟨?_, isRegular_filterValue (path.child key) key value hv,
        isRegular_filterNode path rest hr⟩
      rwa [map_fst_filterNode]

theorem allRegular_groupMembers (path : KeyPath) (i : Nat) : (members : List FilterNode) →
    FilterNode.AllRegular members →
      FilterNode.AllRegular (groupMembers o path i members).value
  | [], _ => trivial
  | node :: rest, ⟨hn, hr⟩ => by
      simp only [groupMembers, Traced.value_bind, Traced.value_pure]
      exact ⟨isRegular_filterNode (path.index i) node hn,
        allRegular_groupMembers path (i + 1) rest hr⟩

end

/-! ## Inclusions -/

theorem map_fst_relations (path : KeyPath) (entries : List (String × RelationPopulate)) :
    (relations o path entries).value.map Prod.fst = entries.map Prod.fst := by
  induction entries with
  | nil => rfl
  | cons entry rest ih =>
      simp only [relations, Traced.value_bind, Traced.value_pure, List.map_cons]
      rw [ih]

mutual

theorem regular_populate (path : KeyPath) : (included : Populate) → included.IsNamed →
    (∀ node ∈ included.filterNodes, FilterNode.IsRegular node) →
      (populate o path included).value.IsNamed ∧
        ∀ node ∈ (populate o path included).value.filterNodes, FilterNode.IsRegular node
  | .shaped entries, hn, hnodes => by
      simp only [populate, Traced.value_bind, Traced.value_pure]
      exact regular_relations path entries hn hnodes
  | .all, hn, hnodes | .relation _, hn, hnodes | .relations _, hn, hnodes => ⟨hn, hnodes⟩

theorem regular_relations (path : KeyPath) : (entries : List (String × RelationPopulate)) →
    Populate.AllNamed entries →
      (∀ node ∈ Populate.filterNodesOfRelations entries, FilterNode.IsRegular node) →
        Populate.AllNamed (relations o path entries).value ∧
          ∀ node ∈ Populate.filterNodesOfRelations (relations o path entries).value,
            FilterNode.IsRegular node
  | [], hn, hnodes => ⟨hn, hnodes⟩
  | (name, inclusion) :: rest, ⟨hk, hi, hr⟩, hnodes => by
      obtain ⟨hni, hnr⟩ := List.forall_mem_append.mp hnodes
      obtain ⟨hin, hinodes⟩ := regular_relation (path.child name) inclusion hi hni
      obtain ⟨hrn, hrnodes⟩ := regular_relations path rest hr hnr
      simp only [relations, Traced.value_bind, Traced.value_pure]
      refine ⟨⟨?_, hin, hrn⟩, List.forall_mem_append.mpr ⟨hinodes, hrnodes⟩⟩
      rwa [map_fst_relations]

theorem regular_relation (path : KeyPath) : (inclusion : RelationPopulate) → inclusion.IsNamed →
    (∀ node ∈ inclusion.filterNodes, FilterNode.IsRegular node) →
      (relation o path inclusion).value.IsNamed ∧
        ∀ node ∈ (relation o path inclusion).value.filterNodes, FilterNode.IsRegular node
  | .shape value, hn, hnodes => by
      simp only [relation, Traced.value_bind, Traced.value_pure]
      exact regular_shape path value hn hnodes
  | .flag _, hn, hnodes | .name _, hn, hnodes => ⟨hn, hnodes⟩

theorem regular_shape (path : KeyPath) : (value : PopulateShape) → value.IsNamed →
    (∀ node ∈ value.filterNodes, FilterNode.IsRegular node) →
      (shape o path value).value.IsNamed ∧
        ∀ node ∈ (shape o path value).value.filterNodes, FilterNode.IsRegular node
  | .mk fields inner sort conditions, hn, hnodes => by
      obtain ⟨hni, hnc⟩ := List.forall_mem_append.mp hnodes
      obtain ⟨hin, hinodes⟩ := regular_optionalPopulate (path.child "populate") inner hn hni
      simp only [shape, Traced.value_bind, Traced.value_pure]
      refine ⟨hin, List.forall_mem_append.mpr ⟨hinodes, ?_⟩⟩
      cases conditions with
      | none => exact fun _ hm => absurd hm List.not_mem_nil
      | some node =>
          intro left hl
          obtain rfl := List.mem_singleton.mp hl
          exact isRegular_filterNode _ node (hnc node List.mem_cons_self)

theorem regular_optionalPopulate (path : KeyPath) : (included : Option Populate) →
    Populate.OptionNamed included →
      (∀ node ∈ Populate.filterNodesOfOption included, FilterNode.IsRegular node) →
        Populate.OptionNamed (optionalPopulate o path included).value ∧
          ∀ node ∈ Populate.filterNodesOfOption (optionalPopulate o path included).value,
            FilterNode.IsRegular node
  | none, hn, hnodes => ⟨hn, hnodes⟩
  | some value, hn, hnodes => by
      simp only [optionalPopulate, Traced.value_bind, Traced.value_pure]
      exact regular_populate path value hn hnodes

end

theorem Intent.isRegular_normalize {i : Intent} (h : i.IsRegular) :
    (i.normalize o).1.IsRegular := by
  obtain ⟨hnodes, hnamed, hpage⟩ := h
  obtain ⟨hnf, hnp⟩ := List.forall_mem_append.mp hnodes
  obtain ⟨hpn, hpnodes⟩ :=
    regular_optionalPopulate (o := o) (KeyPath.ofRoot "populate") i.populate hnamed hnp
  refine ⟨List.forall_mem_append.mpr ⟨fun left hl => ?_, hpnodes⟩, hpn, hpage⟩
  rw [filters_normalize, Option.mem_toList, Option.map_eq_some_iff] at hl
  obtain ⟨node, hn, rfl⟩ := hl
  exact isRegular_filterNode _ node (hnf node (Option.mem_toList.mpr hn))

end BracketQuery
