import BracketQuery.Document.Decode
import BracketQuery.Proofs.Normalization.NormalForm
import BracketQuery.Proofs.Normalization.Regular
import BracketQuery.Proofs.Populate.Relations
import BracketQuery.Proofs.Wire.Grouping
import Mathlib.Data.List.Flatten

/-!
The candidates of an intent: what `$eq` and `$in` compare the type field with, be it one value or a
list. Normalization looks up the candidates of a list under `$in` and the single one under `$eq`,
and passes the others on as it passes on values of any field. So all candidates are known codes
afterwards exactly if these others are known codes already.
-/

namespace BracketQuery

open Normalization

/-- Whether an operator compares the type field with candidates. -/
def Operator.takesCodes : Operator → Bool
  | .eq | .isIn => true
  | _ => false

mutual

/-- The sites of the candidates in the condition under a key at its path. -/
def FilterValue.candidates (typeField : String) (path : KeyPath) (key : String) :
    FilterValue → List Site
  | .operators comparisons =>
    (comparisons.filter fun c => key == typeField && c.1.takesCodes).map
      (Site.ofComparison (key == typeField) path)
  | .nested node => FilterNode.candidates typeField path node
  | .scalar _ | .list _ => []
  | .group members => FilterNode.candidatesOfMembers typeField path 0 members

def FilterNode.candidates (typeField : String) (path : KeyPath) : FilterNode → List Site
  | [] => []
  | (key, value) :: rest =>
    FilterValue.candidates typeField (path.child key) key value ++
      FilterNode.candidates typeField path rest

def FilterNode.candidatesOfMembers (typeField : String) (path : KeyPath) (i : Nat) :
    List FilterNode → List Site
  | [] => []
  | node :: rest =>
    FilterNode.candidates typeField (path.index i) node ++
      FilterNode.candidatesOfMembers typeField path (i + 1) rest

end

namespace Intent

/-- The sites of the candidates in the filters of an intent and of every relation it includes. -/
def candidates (typeField : String) (i : Intent) : List Site :=
  i.filterTrees.flatMap fun tree => FilterNode.candidates typeField tree.1 tree.2

/-- The keys and values as which the candidates of an intent are sent. -/
def candidatePairs (typeField : String) (i : Intent) : List (String × String) :=
  Params.pairs ((i.candidates typeField).flatMap Site.lower)

end Intent

/-! ## Candidates are sites at the two operators of the type field -/

/-- A site at `$eq` or `$in` below the type field. -/
def Site.IsCandidate (typeField : String) (site : Site) : Prop :=
  ∃ (parent : KeyPath) (operator : Operator), operator.takesCodes = true ∧
    site.path = parent.codes typeField operator ∧
    site.coded = decide (operator = site.operand.codeOperator)

mutual

theorem FilterValue.candidates_sublist (typeField : String) (path : KeyPath) (key : String) :
    (value : FilterValue) →
      (value.candidates typeField path key).Sublist (value.sites typeField path key)
  | .operators comparisons => by
      simp only [FilterValue.candidates, FilterValue.sites]
      exact List.filter_sublist.map _
  | .nested node => FilterNode.candidates_sublist typeField path node
  | .scalar _ | .list _ => List.nil_sublist _
  | .group members => FilterNode.candidatesOfMembers_sublist typeField path 0 members

theorem FilterNode.candidates_sublist (typeField : String) (path : KeyPath) :
    (node : FilterNode) →
      (FilterNode.candidates typeField path node).Sublist (FilterNode.sites typeField path node)
  | [] => List.nil_sublist _
  | (key, value) :: rest =>
      (FilterValue.candidates_sublist typeField (path.child key) key value).append
        (FilterNode.candidates_sublist typeField path rest)

theorem FilterNode.candidatesOfMembers_sublist (typeField : String) (path : KeyPath) (i : Nat) :
    (members : List FilterNode) →
      (FilterNode.candidatesOfMembers typeField path i members).Sublist
        (FilterNode.sitesOfMembers typeField path i members)
  | [] => List.nil_sublist _
  | node :: rest =>
      (FilterNode.candidates_sublist typeField (path.index i) node).append
        (FilterNode.candidatesOfMembers_sublist typeField path (i + 1) rest)

end

mutual

theorem FilterValue.candidates_placed (typeField : String) (path : KeyPath) (key : String) :
    (value : FilterValue) →
      ∀ site ∈ value.candidates typeField (path.child key) key, site.IsCandidate typeField
  | .operators comparisons => by
      simp only [FilterValue.candidates, List.mem_map, List.mem_filter, Bool.and_eq_true,
        beq_iff_eq]
      rintro _ ⟨c, ⟨_, hk, ht⟩, rfl⟩
      subst hk
      exact ⟨path, c.1, ht, rfl, by simp [Site.ofComparison]⟩
  | .nested node => FilterNode.candidates_placed typeField (path.child key) node
  | .scalar _ | .list _ => by simp [FilterValue.candidates]
  | .group members => FilterNode.candidatesOfMembers_placed typeField (path.child key) 0 members

theorem FilterNode.candidates_placed (typeField : String) (path : KeyPath) : (node : FilterNode) →
    ∀ site ∈ FilterNode.candidates typeField path node, site.IsCandidate typeField
  | [] => by simp [FilterNode.candidates]
  | (key, value) :: rest => by
      simp only [FilterNode.candidates, List.mem_append]
      rintro site (h | h)
      · exact FilterValue.candidates_placed typeField path key value site h
      · exact FilterNode.candidates_placed typeField path rest site h

theorem FilterNode.candidatesOfMembers_placed (typeField : String) (path : KeyPath) (i : Nat) :
    (members : List FilterNode) →
      ∀ site ∈ FilterNode.candidatesOfMembers typeField path i members, site.IsCandidate typeField
  | [] => by simp [FilterNode.candidatesOfMembers]
  | node :: rest => by
      simp only [FilterNode.candidatesOfMembers, List.mem_append]
      rintro site (h | h)
      · exact FilterNode.candidates_placed typeField (path.index i) node site h
      · exact FilterNode.candidatesOfMembers_placed typeField path (i + 1) rest site h

end

/-! ## Normalization leaves candidates where they are -/

variable (o : Options)

namespace Follows

variable {o} {ofTypeField : Bool} {path : KeyPath}
  {f : Operator × Operand → Changed (Option (Operator × Operand))}

/-- Comparisons that are told apart by their operators can be chosen before or after. -/
theorem filter_value (h : Follows o ofTypeField path f) (chosen : Operator → Bool)
    (cs : List (Operator × Operand)) :
    (Traced.filterMap f cs).value.filter (fun c => chosen c.1) =
      (Traced.filterMap f (cs.filter fun c => chosen c.1)).value := by
  simp only [Traced.value_filterMap]
  induction cs with
  | nil => rfl
  | cons c rest ih =>
      cases hv : (f c).value with
      | none => cases hc : chosen c.1 <;> simp [hv, hc, ih]
      | some left =>
          have ho : left.1 = c.1 := (h.of_value hv).1
          cases hc : chosen c.1 <;> simp [hv, hc, ho, ih]

end Follows

mutual

theorem candidates_filterValue (path : KeyPath) (key : String) : (value : FilterValue) →
    (filterValue o path key value).value.candidates o.typeField path key =
      sitesLeft o (value.candidates o.typeField path key)
  | .operators comparisons => by
      have hf := comparisons_follow o path key
      simp only [filterValue, FilterValue.candidates, Traced.value_bind, Traced.value_pure]
      rw [hf.filter_value fun operator => key == o.typeField && operator.takesCodes]
      exact (hf.sites _).1
  | .nested node => candidates_filterNode path node
  | .scalar _ | .list _ => rfl
  | .group members => candidates_groupMembers path 0 members

/-- The candidates of a normalized node are what is left of its candidates. -/
theorem candidates_filterNode (path : KeyPath) : (node : FilterNode) →
    FilterNode.candidates o.typeField path (filterNode o path node).value =
      sitesLeft o (FilterNode.candidates o.typeField path node)
  | [] => rfl
  | (key, value) :: rest => by
      simp only [filterNode, FilterNode.candidates, Traced.value_bind, Traced.value_pure,
        sitesLeft_append]
      rw [candidates_filterValue (path.child key) key value, candidates_filterNode path rest]

theorem candidates_groupMembers (path : KeyPath) (i : Nat) : (members : List FilterNode) →
    FilterNode.candidatesOfMembers o.typeField path i (groupMembers o path i members).value =
      sitesLeft o (FilterNode.candidatesOfMembers o.typeField path i members)
  | [] => rfl
  | node :: rest => by
      simp only [groupMembers, FilterNode.candidatesOfMembers, Traced.value_bind,
        Traced.value_pure, sitesLeft_append]
      rw [candidates_filterNode (path.index i) node, candidates_groupMembers path (i + 1) rest]

end

theorem Intent.candidates_normalize (i : Intent) :
    (i.normalize o).1.candidates o.typeField = sitesLeft o (i.candidates o.typeField) := by
  rw [candidates, candidates, filterTrees_normalize, List.flatMap_map, sitesLeft,
    List.filterMap_flatMap]
  exact congrArg (List.flatMap · i.filterTrees)
    (funext fun tree => candidates_filterNode o tree.1 tree.2)

/-! ## What is sent of candidates -/

theorem Operand.exists_of_mem_lower {operand : Operand} {path : KeyPath} {p : Param}
    (h : p ∈ operand.lower path) : ∃ value ∈ operand.values, p.value = value.wireText := by
  cases operand with
  | scalar value =>
      rw [List.mem_singleton.mp h]
      exact ⟨value, List.mem_cons_self, rfl⟩
  | list values =>
      obtain ⟨i, hi, rfl⟩ := List.mem_mapIdx.mp h
      rw [List.length_map] at hi
      exact ⟨values[i], List.getElem_mem hi, List.getElem_map _⟩

namespace Intent

variable (i : Intent)

theorem pairs_flatMap_lowerOfRelation (sites : List Site) :
    Params.pairs (sites.flatMap Site.lowerOfRelation) = Params.pairs (sites.flatMap Site.lower) := by
  simp only [Params.pairs, List.map_flatMap, Site.lowerOfRelation, List.map_map]
  rfl

/-- The candidates are sent among the other parameters, in their order. -/
theorem candidatePairs_sublist (typeField : String) :
    (i.candidatePairs typeField).Sublist i.lower.pairs := by
  have hsites : (i.candidates typeField).Sublist (i.sites typeField) := by
    rw [sites_eq_sitesOfTrees]
    exact List.Sublist.flatMap_right i.filterTrees
      fun tree _ => FilterNode.candidates_sublist typeField tree.1 tree.2
  have hrelations := Populate.sitesOfOption_sublist typeField (KeyPath.ofRoot "populate") i.populate
  have hsent : (Params.pairs ((i.sites typeField).flatMap Site.lower)).Sublist i.lower.pairs := by
    rw [lower_eq_append, lowerOf_filters_eq_flatMap_sites i typeField, sites, List.flatMap_append]
    simp only [Params.pairs, List.map_append]
    refine (List.Sublist.append (List.Sublist.refl _) ?_).trans (List.sublist_append_left _ _)
    have hp := pairs_flatMap_lowerOfRelation (i.relationSites typeField)
    simp only [Params.pairs] at hp
    rw [← hp]
    exact hrelations.map _
  exact ((hsites.flatMap _).map _).trans hsent

end Intent

/-! ## Which candidates are known afterwards -/

namespace Site

variable {o}

theorem coded_of_removed : {site : Site} → site.normalized? o = none → site.coded = true
  | ⟨_, true, _⟩, _ => rfl
  | ⟨_, false, .list _⟩, h => by cases h
  | ⟨_, false, .scalar _⟩, h => by cases h

/-- Type codes are known after normalization, and other values if they are known already. -/
theorem isKnown_normalized_iff : {site left : Site} → site.normalized? o = some left →
    ((∀ value ∈ left.operand.values, o.IsKnown value) ↔
      (site.coded = false → ∀ value ∈ site.operand.values, o.IsKnown (o.expanded value)))
  | ⟨path, true, operand⟩, left, h => by
      have hc : left.coded = true := (normalized?_eq_some h).2.1
      have hn := isNormal_of_normalized? h
      simp only [IsNormal, hc, ↓reduceIte] at hn
      simpa using hn
  | ⟨_, false, .list values⟩, _, h => by
      obtain rfl := Option.some.inj h
      simp [Operand.values]
  | ⟨_, false, .scalar value⟩, _, h => by
      obtain rfl := Option.some.inj h
      simp [Operand.values]

theorem isKnown_sitesLeft_iff (sites : List Site) :
    (∀ left ∈ sitesLeft o sites, ∀ value ∈ left.operand.values, o.IsKnown value) ↔
      ∀ site ∈ sites, site.coded = false →
        ∀ value ∈ site.operand.values, o.IsKnown (o.expanded value) := by
  induction sites with
  | nil => simp [sitesLeft]
  | cons site rest ih =>
      rw [sitesLeft_cons, List.forall_mem_append, ih, List.forall_mem_cons]
      refine and_congr_left fun _ => ?_
      cases hn : site.normalized? o with
      | none => simp [coded_of_removed hn]
      | some left => simpa using isKnown_normalized_iff hn

end Site

namespace Intent

variable (i : Intent)

/-- The candidates of known codes are sent as known codes. -/
theorem candidatePairs_known {typeField : String}
    (h : ∀ site ∈ i.candidates typeField, ∀ value ∈ site.operand.values, o.IsKnown value) :
    ∀ pair ∈ i.candidatePairs typeField, pair.2 ∈ o.typeCodes.codes := by
  intro pair hp
  obtain ⟨p, hsent, rfl⟩ := List.mem_map.mp hp
  obtain ⟨site, hs, hl⟩ := List.mem_flatMap.mp hsent
  obtain ⟨value, hv, ht⟩ := Operand.exists_of_mem_lower hl
  obtain ⟨code, hc, rfl⟩ := h site hs value hv
  rw [ht]
  exact hc

/-- After normalization the candidates of the type field, at any depth of the filters of an intent
and of the relations it includes, are known codes, and so are the values sent of them, exactly if
each that `$in` takes alone or `$eq` takes in a list is a known code once dates are expanded. -/
theorem candidates_known_iff :
    let left : Intent := (i.normalize o).1
    (∀ site ∈ left.candidates o.typeField, site.IsCandidate o.typeField) ∧
      (left.candidatePairs o.typeField).Sublist left.lower.pairs ∧
      (((∀ site ∈ left.candidates o.typeField, ∀ value ∈ site.operand.values, o.IsKnown value) ∧
          ∀ pair ∈ left.candidatePairs o.typeField, pair.2 ∈ o.typeCodes.codes) ↔
        ∀ site ∈ i.candidates o.typeField, site.coded = false →
          ∀ value ∈ site.operand.values, o.IsKnown (o.expanded value)) := by
  intro left
  refine ⟨?_, left.candidatePairs_sublist o.typeField, ?_⟩
  · intro site hs
    obtain ⟨tree, _, ht⟩ := List.mem_flatMap.mp hs
    exact FilterNode.candidates_placed o.typeField tree.1 tree.2 site ht
  · rw [and_iff_left_of_imp (left.candidatePairs_known o)]
    simp only [left, candidates_normalize]
    exact Site.isKnown_sitesLeft_iff _

/-- A single value that is no known code passes normalization under `$in`. -/
theorem unlisted_code_passed_on :
    let members := [("filters", Json.object [("type", .object [("$in", .string "bogus")])])]
    let (query, left, report) :=
      (Intent.ofMembers members).value.compileNormalized Options.standard
    query = "filters[type][$in]=bogus" ∧ report.changes = [] ∧
      left.candidatePairs "type" = [("filters[type][$in]", "bogus")] ∧
      "bogus" ∉ Options.standard.typeCodes.codes := by
  rw [Options.standard_eq]
  decide +kernel

end Intent

end BracketQuery
