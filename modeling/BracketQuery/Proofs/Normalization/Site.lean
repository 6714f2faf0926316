import BracketQuery.Proofs.Filter.Site
import BracketQuery.Proofs.Normalization.Rules

/-!
Normalization seen from the sites of a tree: each site is normalized by itself, and the sites of the
normalized tree are what is left of them, at the paths at which they were. What is reported is what
was done to the sites, in order.
-/

namespace BracketQuery

open Normalization

/-! ## One site -/

namespace Site

/-- A site after normalization, if it is still there. -/
def normalized? (o : Options) : Site → Option Site
  | ⟨path, true, .list values⟩ => some ⟨path, true, .list (o.codes values)⟩
  | ⟨path, true, .scalar value⟩ =>
    (o.code? value).map fun code => ⟨path, true, .scalar (.string code)⟩
  | ⟨path, false, .list values⟩ => some ⟨path, false, .list (values.map o.expanded)⟩
  | ⟨path, false, .scalar value⟩ => some ⟨path, false, .scalar (o.expanded value)⟩

/-- What normalization does to a site. -/
def changes (o : Options) : Site → List Change
  | ⟨path, true, .list values⟩ =>
    values.flatMap (o.codeChanges path) ++
      if (o.codes values).isEmpty then [.emptied path] else []
  | ⟨path, true, .scalar value⟩ => o.codeChanges path value
  | ⟨_, false, .list values⟩ => values.flatMap o.dateChanges
  | ⟨_, false, .scalar value⟩ => o.dateChanges value

/-- Normalization leaves a site where it is. -/
theorem normalized?_eq_some {o : Options} : {site left : Site} → site.normalized? o = some left →
    left.path = site.path ∧ left.coded = site.coded ∧
      left.operand.codeOperator = site.operand.codeOperator
  | ⟨_, true, .list _⟩, _, h => by
      obtain rfl := Option.some.inj h
      exact ⟨rfl, rfl, rfl⟩
  | ⟨_, true, .scalar _⟩, _, h => by
      obtain ⟨_, _, rfl⟩ := Option.map_eq_some_iff.mp h
      exact ⟨rfl, rfl, rfl⟩
  | ⟨_, false, .list _⟩, _, h => by
      obtain rfl := Option.some.inj h
      exact ⟨rfl, rfl, rfl⟩
  | ⟨_, false, .scalar _⟩, _, h => by
      obtain rfl := Option.some.inj h
      exact ⟨rfl, rfl, rfl⟩

end Site

variable (o : Options)

/-! ## Comparisons -/

/-- A function of the comparisons of the field at a path does to a comparison what normalization
does to its site. -/
def Follows (ofTypeField : Bool) (path : KeyPath)
    (f : Operator × Operand → Changed (Option (Operator × Operand))) : Prop :=
  ∀ c, (f c).value = ((Site.ofComparison ofTypeField path c).normalized? o).map
      (fun site => (c.1, site.operand)) ∧
    (f c).events = (Site.ofComparison ofTypeField path c).changes o

theorem typeComparison_follows (path : KeyPath) : Follows o true path (typeComparison o path) := by
  rintro ⟨operator, value⟩
  cases operator <;> cases value
  case isIn.list values =>
      have hv : (Traced.filterMap (typeCode o (path.child Operator.isIn.spelling)) values).value =
          o.codes values := by simp [Options.codes]
      simp only [typeComparison, Traced.value_bind, Traced.events_bind, hv,
        Traced.events_filterMap, events_typeCode]
      split <;> rename_i h <;>
        simp [Site.ofComparison, Operand.codeOperator, Site.normalized?, Site.changes, h]
  case eq.scalar value =>
      simp only [typeComparison, Traced.value_bind, Traced.events_bind, value_typeCode,
        events_typeCode]
      cases h : o.code? value <;>
        simp [Site.ofComparison, Operand.codeOperator, Site.normalized?, Site.changes, h]
  -- The operator does not fit the operand, so the comparison is treated as that of any field.
  all_goals simp [typeComparison, operand, Site.ofComparison, Operand.codeOperator,
    Site.normalized?, Site.changes]

theorem comparison_follows (path : KeyPath) : Follows o false path (comparison o) := by
  rintro ⟨operator, value⟩
  cases value <;> simp [comparison, operand, Site.ofComparison, Site.normalized?, Site.changes]

/-- The rule for the comparisons under a key is chosen by the key. -/
theorem comparisons_follow (path : KeyPath) (key : String) :
    Follows o (key == o.typeField) path
      (if key = o.typeField then typeComparison o path else comparison o) := by
  by_cases h : key = o.typeField
  · simp only [h, ↓reduceIte, beq_self_eq_true]
    exact typeComparison_follows o path
  · simp only [h, ↓reduceIte, beq_eq_false_iff_ne.mpr h]
    exact comparison_follows o path

/-! ## The sites of a normalized tree -/

/-- What is left of sites after normalization. -/
def sitesLeft (sites : List Site) : List Site := sites.filterMap fun site => site.normalized? o

/-- What normalization does to sites. -/
def sitesChanges (sites : List Site) : List Change := sites.flatMap fun site => site.changes o

@[simp] theorem sitesLeft_cons (site : Site) (rest : List Site) :
    sitesLeft o (site :: rest) = (site.normalized? o).toList ++ sitesLeft o rest := by
  cases h : site.normalized? o <;> simp [sitesLeft, h]

@[simp] theorem sitesChanges_cons (site : Site) (rest : List Site) :
    sitesChanges o (site :: rest) = site.changes o ++ sitesChanges o rest := List.flatMap_cons

@[simp] theorem sitesLeft_append (xs ys : List Site) :
    sitesLeft o (xs ++ ys) = sitesLeft o xs ++ sitesLeft o ys := List.filterMap_append

@[simp] theorem sitesChanges_append (xs ys : List Site) :
    sitesChanges o (xs ++ ys) = sitesChanges o xs ++ sitesChanges o ys := List.flatMap_append

/-- Sites that a property tells apart before, and one after normalization, are where they were. -/
theorem Site.map_path_filter_sitesLeft {before after : Site → Bool}
    (hleft : ∀ site left, site.normalized? o = some left → after left = before site)
    (hremoved : ∀ site, site.normalized? o = none → before site = false) (sites : List Site) :
    ((sitesLeft o sites).filter after).map path = (sites.filter before).map path := by
  induction sites with
  | nil => rfl
  | cons site rest ih =>
      rw [sitesLeft_cons, List.filter_append, List.map_append, ih]
      cases hn : site.normalized? o with
      | none => simp [hremoved site hn]
      | some left =>
          have hp := (normalized?_eq_some hn).1
          have he := hleft site left hn
          cases h : before site <;> simp [he, h, hp]

namespace Follows

variable {o} {ofTypeField : Bool} {path : KeyPath}
  {f : Operator × Operand → Changed (Option (Operator × Operand))}

theorem map_value (h : Follows o ofTypeField path f) (c : Operator × Operand) :
    (f c).value.map (Site.ofComparison ofTypeField path) =
      (Site.ofComparison ofTypeField path c).normalized? o := by
  rw [(h c).1]
  cases hn : (Site.ofComparison ofTypeField path c).normalized? o with
  | none => rfl
  | some left =>
      obtain ⟨hp, hc, ho⟩ := Site.normalized?_eq_some hn
      obtain ⟨path', coded, operand⟩ := left
      simp only [Site.ofComparison] at hp hc ho
      simp [Site.ofComparison, hp, hc, ho]

theorem sites (h : Follows o ofTypeField path f) (cs : List (Operator × Operand)) :
    (Traced.filterMap f cs).value.map (Site.ofComparison ofTypeField path) =
        sitesLeft o (cs.map (Site.ofComparison ofTypeField path)) ∧
      (Traced.filterMap f cs).events =
        sitesChanges o (cs.map (Site.ofComparison ofTypeField path)) := by
  simp only [Traced.value_filterMap, Traced.events_filterMap, sitesLeft, sitesChanges,
    List.map_filterMap, List.filterMap_map, List.flatMap_map]
  exact ⟨congrArg (List.filterMap · cs) (funext h.map_value),
    congrArg (List.flatMap · cs) (funext fun c => (h c).2)⟩

end Follows

mutual

theorem filterValue_sites (path : KeyPath) (key : String) : (value : FilterValue) →
    (filterValue o path key value).value.sites o.typeField path key =
        sitesLeft o (value.sites o.typeField path key) ∧
      (filterValue o path key value).events = sitesChanges o (value.sites o.typeField path key)
  | .operators comparisons => by
      simp only [filterValue, FilterValue.sites, Traced.value_bind, Traced.value_pure,
        Traced.events_bind, Traced.events_pure, List.append_nil]
      exact (comparisons_follow o path key).sites comparisons
  | .nested node => by
      simpa [filterValue, FilterValue.sites] using filterNode_sites path node
  | .scalar value => by
      simp [filterValue, FilterValue.sites, sitesLeft, sitesChanges, Site.normalized?, Site.changes]
  | .list values => by
      simp [filterValue, FilterValue.sites, sitesLeft, sitesChanges, Site.normalized?, Site.changes]
  | .group members => by
      simpa [filterValue, FilterValue.sites] using groupMembers_sites path 0 members

/-- The sites of a normalized node are what is left of its sites, and what is noted is what is done
to them. -/
theorem filterNode_sites (path : KeyPath) : (node : FilterNode) →
    FilterNode.sites o.typeField path (filterNode o path node).value =
        sitesLeft o (FilterNode.sites o.typeField path node) ∧
      (filterNode o path node).events = sitesChanges o (FilterNode.sites o.typeField path node)
  | [] => ⟨rfl, rfl⟩
  | (key, value) :: rest => by
      have hv := filterValue_sites (path.child key) key value
      have hr := filterNode_sites path rest
      simp [filterNode, FilterNode.sites, hv, hr]

theorem groupMembers_sites (path : KeyPath) (i : Nat) : (members : List FilterNode) →
    FilterNode.sitesOfMembers o.typeField path i (groupMembers o path i members).value =
        sitesLeft o (FilterNode.sitesOfMembers o.typeField path i members) ∧
      (groupMembers o path i members).events =
        sitesChanges o (FilterNode.sitesOfMembers o.typeField path i members)
  | [] => ⟨rfl, rfl⟩
  | node :: rest => by
      have hn := filterNode_sites (path.index i) node
      have hr := groupMembers_sites path (i + 1) rest
      simp [groupMembers, FilterNode.sitesOfMembers, hn, hr]

end

mutual

/-- The same holds of the relation filters of an inclusion. -/
theorem populate_sites (path : KeyPath) : (included : Populate) →
    (populate o path included).value.sites o.typeField path =
        sitesLeft o (included.sites o.typeField path) ∧
      (populate o path included).events = sitesChanges o (included.sites o.typeField path)
  | .shaped entries => by
      simpa [populate, Populate.sites] using relations_sites path entries
  | .all | .relation _ | .relations _ => ⟨rfl, rfl⟩

theorem relations_sites (path : KeyPath) : (entries : List (String × RelationPopulate)) →
    Populate.sitesOfRelations o.typeField path (relations o path entries).value =
        sitesLeft o (Populate.sitesOfRelations o.typeField path entries) ∧
      (relations o path entries).events =
        sitesChanges o (Populate.sitesOfRelations o.typeField path entries)
  | [] => ⟨rfl, rfl⟩
  | (name, inclusion) :: rest => by
      have hi := relation_sites (path.child name) inclusion
      have hr := relations_sites path rest
      simp [relations, Populate.sitesOfRelations, hi, hr]

theorem relation_sites (path : KeyPath) : (inclusion : RelationPopulate) →
    (relation o path inclusion).value.sites o.typeField path =
        sitesLeft o (inclusion.sites o.typeField path) ∧
      (relation o path inclusion).events = sitesChanges o (inclusion.sites o.typeField path)
  | .shape value => by
      simpa [relation, RelationPopulate.sites] using shape_sites path value
  | .flag _ | .name _ => ⟨rfl, rfl⟩

theorem shape_sites (path : KeyPath) : (value : PopulateShape) →
    (shape o path value).value.sites o.typeField path =
        sitesLeft o (value.sites o.typeField path) ∧
      (shape o path value).events = sitesChanges o (value.sites o.typeField path)
  | .mk fields inner sort conditions => by
      have hi := optionalPopulate_sites (path.child "populate") inner
      cases conditions with
      | none => simp [shape, PopulateShape.sites, filters, hi]
      | some node =>
          have hn := filterNode_sites o (path.child "filters") node
          simp [shape, PopulateShape.sites, filters, hi, hn]

theorem optionalPopulate_sites (path : KeyPath) : (included : Option Populate) →
    Populate.sitesOfOption o.typeField path (optionalPopulate o path included).value =
        sitesLeft o (Populate.sitesOfOption o.typeField path included) ∧
      (optionalPopulate o path included).events =
        sitesChanges o (Populate.sitesOfOption o.typeField path included)
  | none => ⟨rfl, rfl⟩
  | some value => by
      simpa [optionalPopulate, Populate.sitesOfOption] using populate_sites path value

end

/-! ## The sites of a normalized intent -/

namespace Intent

variable (i : Intent)

/-- Filters are left of a normalized intent exactly where there were some. -/
theorem filters_normalize :
    (i.normalize o).1.filters =
      i.filters.map fun node => (filterNode o (KeyPath.ofRoot "filters") node).value := by
  cases h : i.filters <;> simp [normalize, Normalization.intent, Normalization.filters, h]

theorem filterSites_normalize :
    (i.normalize o).1.filterSites o.typeField = sitesLeft o (i.filterSites o.typeField) := by
  unfold filterSites
  rw [filters_normalize]
  cases i.filters with
  | none => rfl
  | some node => exact (filterNode_sites o _ node).1

theorem relationSites_normalize :
    (i.normalize o).1.relationSites o.typeField = sitesLeft o (i.relationSites o.typeField) :=
  (optionalPopulate_sites o (KeyPath.ofRoot "populate") i.populate).1

theorem sites_normalize :
    (i.normalize o).1.sites o.typeField = sitesLeft o (i.sites o.typeField) := by
  simp [sites, filterSites_normalize, relationSites_normalize]

/-- The report of an intent lists what was done to its sites. -/
theorem changes_normalize : (i.normalize o).2.changes = sitesChanges o (i.sites o.typeField) := by
  have hp := (optionalPopulate_sites o (KeyPath.ofRoot "populate") i.populate).2
  cases h : i.filters with
  | none =>
      simp [normalize, Normalization.intent, Normalization.filters, sites, filterSites,
        relationSites, h, hp, sitesChanges]
  | some node =>
      have hn := (filterNode_sites o (KeyPath.ofRoot "filters") node).2
      simp [normalize, Normalization.intent, Normalization.filters, sites, filterSites,
        relationSites, h, hp, hn]

end Intent

end BracketQuery
