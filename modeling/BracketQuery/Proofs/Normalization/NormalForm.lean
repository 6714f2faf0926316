import BracketQuery.Proofs.Calendar.Reading
import BracketQuery.Proofs.Normalization.Outcome

/-!
The normal form of an intent: every type code is a known one, and no other text is a date that would
be expanded. Normalization reaches it and changes nothing in it, so a second run repeats only which
lists of type codes are empty.
-/

namespace BracketQuery

open Normalization

/-- The single values of an operand. -/
def Operand.values : Operand → List Scalar
  | .scalar value => [value]
  | .list values => values

namespace Normalization.Options

variable (o : Options)

/-- A value is a known type code. -/
def IsKnown (value : Scalar) : Prop := ∃ code ∈ o.typeCodes.codes, value = .string code

/-- A value is no calendar date, if dates are expanded. -/
def IsDateless (value : Scalar) : Prop :=
  o.expandDates = true → ∀ text, value = .string text → Calendar.isDate text = false

end Normalization.Options

variable (o : Options)

/-- A site in normal form has known codes if it has type codes, else no dates to expand. -/
def Site.IsNormal (site : Site) : Prop :=
  ∀ value ∈ site.operand.values, if site.coded then o.IsKnown value else o.IsDateless value

/-- An intent in normal form has its own filters and those of every relation in normal form. -/
def Intent.IsNormal (i : Intent) : Prop := ∀ site ∈ i.sites o.typeField, site.IsNormal o

/-! ## Values -/

namespace Normalization.Options

variable {o}

theorem isKnown_of_code {value : Scalar} {code : String} (h : o.code? value = some code) :
    o.IsKnown (.string code) := by
  obtain ⟨text, _, hc⟩ := Option.bind_eq_some_iff.mp h
  exact ⟨code, (TypeCodes.canonicalize?_eq_some_iff.mp hc).2, rfl⟩

theorem code_of_isKnown {given : List String} (hg : o.typeCodes = TypeCodes.ofList given)
    {value : Scalar} (h : o.IsKnown value) :
    ∃ code, o.code? value = some code ∧ value = .string code := by
  obtain ⟨code, hc, rfl⟩ := h
  rw [hg] at hc
  refine ⟨code, ?_, rfl⟩
  change o.typeCodes.canonicalize? code = some code
  rw [hg, TypeCodes.canonicalize?_eq_self_iff]
  exact hc

/-- The texts that must not be left are those of the days of the calendar. -/
theorem isDateless_iff {value : Scalar} : o.IsDateless value ↔
    (o.expandDates = true → ∀ digits : Calendar.DateDigits, digits.date.Exists →
      value ≠ .string digits.text) := by
  refine imp_congr_right fun _ => ?_
  constructor
  · rintro h digits he rfl
    exact Bool.false_ne_true ((h _ rfl).symm.trans (digits.isDate_text_iff.mpr he))
  · rintro h text rfl
    apply Bool.eq_false_iff.mpr
    intro hd
    obtain ⟨digits, he, rfl⟩ := Calendar.isDate_iff.mp hd
    exact h digits he rfl

theorem instant?_eq_none_iff {value : Scalar} : o.instant? value = none ↔ o.IsDateless value := by
  cases value with
  | string text => simp [instant?, IsDateless, Calendar.expand?_eq_none_iff]
  | _ => simp [instant?, IsDateless]

/-- What dates are expanded to are no dates. -/
theorem isDateless_expanded (value : Scalar) : o.IsDateless (o.expanded value) := by
  cases h : o.instant? value with
  | none =>
      rw [expanded_of_none o h]
      exact instant?_eq_none_iff.mp h
  | some instant =>
      rw [expanded_of_some o h]
      rintro _ text ⟨rfl⟩
      cases value with
      | string source =>
          simp only [instant?, Option.ite_none_right_eq_some] at h
          exact Calendar.isDate_of_expand? h.2
      | _ => simp [instant?] at h

theorem expanded_of_isDateless {value : Scalar} (h : o.IsDateless value) :
    o.expanded value = value :=
  expanded_of_none o (instant?_eq_none_iff.mpr h)

theorem codes_of_isKnown {given : List String} (hg : o.typeCodes = TypeCodes.ofList given)
    {values : List Scalar} (h : ∀ value ∈ values, o.IsKnown value) : o.codes values = values := by
  induction values with
  | nil => rfl
  | cons value rest ih =>
      obtain ⟨hv, hr⟩ := List.forall_mem_cons.mp h
      obtain ⟨code, hc, rfl⟩ := code_of_isKnown hg hv
      have hrest := ih hr
      unfold codes at hrest ⊢
      rw [List.filterMap_cons, hc, hrest]
      rfl

theorem codeChanges_of_isKnown {given : List String} (hg : o.typeCodes = TypeCodes.ofList given)
    (path : KeyPath) {value : Scalar} (h : o.IsKnown value) : o.codeChanges path value = [] := by
  obtain ⟨code, hc, rfl⟩ := code_of_isKnown hg h
  simp [codeChanges, hc]

theorem dateChanges_of_isDateless {value : Scalar} (h : o.IsDateless value) :
    o.dateChanges value = [] := by
  simp [dateChanges, instant?_eq_none_iff.mpr h]

end Normalization.Options

/-! ## Sites -/

namespace Site

variable {o}

/-- What is left of a site is in normal form. -/
theorem isNormal_of_normalized? : {site left : Site} → site.normalized? o = some left →
    left.IsNormal o
  | ⟨_, true, .list values⟩, _, h => by
      obtain rfl := Option.some.inj h
      intro value hv
      obtain ⟨source, _, hs⟩ := List.mem_filterMap.mp hv
      obtain ⟨code, hc, rfl⟩ := Option.map_eq_some_iff.mp hs
      exact Options.isKnown_of_code hc
  | ⟨_, true, .scalar _⟩, _, h => by
      obtain ⟨code, hc, rfl⟩ := Option.map_eq_some_iff.mp h
      intro value hv
      obtain rfl := List.mem_singleton.mp hv
      exact Options.isKnown_of_code hc
  | ⟨_, false, .list values⟩, _, h => by
      obtain rfl := Option.some.inj h
      intro value hv
      obtain ⟨source, _, rfl⟩ := List.mem_map.mp hv
      exact Options.isDateless_expanded source
  | ⟨_, false, .scalar source⟩, _, h => by
      obtain rfl := Option.some.inj h
      intro value hv
      obtain rfl := List.mem_singleton.mp hv
      exact Options.isDateless_expanded source

theorem isEmptied_of_removed : {site : Site} → site.normalized? o = none →
    site.isEmptied o = false
  | ⟨_, true, .list _⟩, h => by simp [normalized?] at h
  | ⟨_, true, .scalar _⟩, _ => rfl
  | ⟨_, false, _⟩, _ => rfl

variable {given : List String} (hg : o.typeCodes = TypeCodes.ofList given)

include hg

/-- A site in normal form stays as it is. -/
theorem normalized?_of_isNormal : {site : Site} → site.IsNormal o → site.normalized? o = some site
  | ⟨_, true, .list values⟩, h => by
      have hc : o.codes values = values := Options.codes_of_isKnown hg h
      rw [normalized?, hc]
  | ⟨_, true, .scalar value⟩, h => by
      obtain ⟨code, hc, rfl⟩ := Options.code_of_isKnown hg (h value List.mem_cons_self)
      rw [normalized?, hc]
      rfl
  | ⟨_, false, .list values⟩, h => by
      have hm : values.map o.expanded = values.map id :=
        List.map_congr_left fun value hv => Options.expanded_of_isDateless (h value hv)
      rw [normalized?, hm, List.map_id]
  | ⟨_, false, .scalar value⟩, h => by
      rw [normalized?, Options.expanded_of_isDateless (h value List.mem_cons_self)]

/-- All that is noted of a site in normal form is that it is an empty list of type codes. -/
theorem changes_of_isNormal : {site : Site} → site.IsNormal o →
    site.changes o = if site.isEmptied o then [.emptied site.path] else []
  | ⟨path, true, .list values⟩, h => by
      have hc : values.flatMap (o.codeChanges path) = [] :=
        List.flatMap_eq_nil_iff.mpr fun value hv =>
          Options.codeChanges_of_isKnown hg path (h value hv)
      simp [changes, isEmptied, hc]
  | ⟨path, true, .scalar value⟩, h => by
      simp [changes, isEmptied, Options.codeChanges_of_isKnown hg path (h value List.mem_cons_self)]
  | ⟨_, false, .list values⟩, h => by
      have hd : values.flatMap o.dateChanges = [] :=
        List.flatMap_eq_nil_iff.mpr fun value hv =>
          Options.dateChanges_of_isDateless (h value hv)
      simp [changes, isEmptied, hd]
  | ⟨_, false, .scalar value⟩, h => by
      simp [changes, isEmptied, Options.dateChanges_of_isDateless (h value List.mem_cons_self)]

/-- What is left of a list without a known code is an empty list, and of no other. -/
theorem isEmptied_of_normalized? : {site left : Site} → site.normalized? o = some left →
    left.isEmptied o = site.isEmptied o
  | ⟨_, true, .list values⟩, left, h => by
      have hn := isNormal_of_normalized? h
      obtain rfl := Option.some.inj h
      have hc : o.codes (o.codes values) = o.codes values := Options.codes_of_isKnown hg hn
      simp [isEmptied, hc]
  | ⟨_, true, .scalar _⟩, _, h => by
      obtain ⟨_, _, rfl⟩ := Option.map_eq_some_iff.mp h
      rfl
  | ⟨_, false, .list _⟩, _, h => by
      obtain rfl := Option.some.inj h
      rfl
  | ⟨_, false, .scalar _⟩, _, h => by
      obtain rfl := Option.some.inj h
      rfl

theorem sitesChanges_of_isNormal {sites : List Site} (h : ∀ site ∈ sites, site.IsNormal o) :
    sitesChanges o sites =
      (sites.filter fun site => site.isEmptied o).map fun site => .emptied site.path := by
  induction sites with
  | nil => rfl
  | cons site rest ih =>
      obtain ⟨hs, hr⟩ := List.forall_mem_cons.mp h
      rw [sitesChanges_cons, changes_of_isNormal hg hs, ih hr]
      cases he : site.isEmptied o <;> simp [he]

/-- The lists without a known code are where they were. -/
theorem emptied_sitesLeft (sites : List Site) :
    ((sitesLeft o sites).filter fun site => site.isEmptied o).map path =
      (sites.filter fun site => site.isEmptied o).map path :=
  map_path_filter_sitesLeft o (fun _ _ h => isEmptied_of_normalized? hg h)
    (fun _ h => isEmptied_of_removed h) sites

end Site

/-! ## Trees that stay as they are

Paths do not matter here: a tree stays as it is when each of its sites does. -/

theorem Follows.filterMap_value {ofTypeField : Bool} {path : KeyPath}
    {f : Operator × Operand → Changed (Option (Operator × Operand))}
    (hf : Follows o ofTypeField path f) {cs : List (Operator × Operand)}
    (h : ∀ c ∈ cs, (Site.ofComparison ofTypeField path c).normalized? o =
      some (Site.ofComparison ofTypeField path c)) :
    (Traced.filterMap f cs).value = cs := by
  induction cs with
  | nil => rfl
  | cons c rest ih =>
      obtain ⟨hc, hr⟩ := List.forall_mem_cons.mp h
      have hv : (f c).value = some c := by
        rw [(hf c).1, hc]
        rfl
      simp only [Traced.filterMap, Traced.value_bind, Traced.value_pure]
      rw [hv, ih hr]

/-- Normalization leaves every one of the sites as it is. -/
def Settled (sites : List Site) : Prop := ∀ site ∈ sites, site.normalized? o = some site

@[simp] theorem settled_append {xs ys : List Site} :
    Settled o (xs ++ ys) ↔ Settled o xs ∧ Settled o ys := List.forall_mem_append

mutual

theorem filterValue_of_settled (path : KeyPath) (key : String) : (value : FilterValue) →
    Settled o (value.sites o.typeField path key) → (filterValue o path key value).value = value
  | .operators comparisons, h => by
      simp only [FilterValue.sites, Settled, List.forall_mem_map] at h
      simp only [filterValue, Traced.value_bind, Traced.value_pure]
      rw [(comparisons_follow o path key).filterMap_value o h]
  | .nested node, h => by
      simp only [FilterValue.sites] at h
      simp only [filterValue, Traced.value_bind, Traced.value_pure]
      rw [filterNode_of_settled path node h]
  | .scalar value, h => by
      simpa [FilterValue.sites, Settled, Site.normalized?, filterValue] using h
  | .list values, h => by
      simpa [FilterValue.sites, Settled, Site.normalized?, filterValue] using h
  | .group members, h => by
      simp only [FilterValue.sites] at h
      simp only [filterValue, Traced.value_bind, Traced.value_pure]
      rw [groupMembers_of_settled path 0 members h]

theorem filterNode_of_settled (path : KeyPath) : (node : FilterNode) →
    Settled o (FilterNode.sites o.typeField path node) → (filterNode o path node).value = node
  | [], _ => rfl
  | (key, value) :: rest, h => by
      simp only [FilterNode.sites, settled_append] at h
      simp only [filterNode, Traced.value_bind, Traced.value_pure]
      rw [filterValue_of_settled (path.child key) key value h.1,
        filterNode_of_settled path rest h.2]

theorem groupMembers_of_settled (path : KeyPath) (i : Nat) : (members : List FilterNode) →
    Settled o (FilterNode.sitesOfMembers o.typeField path i members) →
      (groupMembers o path i members).value = members
  | [], _ => rfl
  | node :: rest, h => by
      simp only [FilterNode.sitesOfMembers, settled_append] at h
      simp only [groupMembers, Traced.value_bind, Traced.value_pure]
      rw [filterNode_of_settled (path.index i) node h.1,
        groupMembers_of_settled path (i + 1) rest h.2]

end

mutual

theorem populate_of_settled (path : KeyPath) : (included : Populate) →
    Settled o (included.sites o.typeField path) → (populate o path included).value = included
  | .shaped entries, h => by
      simp only [Populate.sites] at h
      simp only [populate, Traced.value_bind, Traced.value_pure]
      rw [relations_of_settled path entries h]
  | .all, _ | .relation _, _ | .relations _, _ => rfl

theorem relations_of_settled (path : KeyPath) : (entries : List (String × RelationPopulate)) →
    Settled o (Populate.sitesOfRelations o.typeField path entries) →
      (relations o path entries).value = entries
  | [], _ => rfl
  | (name, inclusion) :: rest, h => by
      simp only [Populate.sitesOfRelations, settled_append] at h
      simp only [relations, Traced.value_bind, Traced.value_pure]
      rw [relation_of_settled (path.child name) inclusion h.1, relations_of_settled path rest h.2]

theorem relation_of_settled (path : KeyPath) : (inclusion : RelationPopulate) →
    Settled o (inclusion.sites o.typeField path) → (relation o path inclusion).value = inclusion
  | .shape value, h => by
      simp only [RelationPopulate.sites] at h
      simp only [relation, Traced.value_bind, Traced.value_pure]
      rw [shape_of_settled path value h]
  | .flag _, _ | .name _, _ => rfl

theorem shape_of_settled (path : KeyPath) : (value : PopulateShape) →
    Settled o (value.sites o.typeField path) → (shape o path value).value = value
  | .mk fields inner sort conditions, h => by
      simp only [PopulateShape.sites, settled_append] at h
      simp only [shape, Traced.value_bind, Traced.value_pure]
      rw [optionalPopulate_of_settled (path.child "populate") inner h.1]
      cases conditions with
      | none => rfl
      | some node =>
          simp only [filters, Traced.value_bind, Traced.value_pure]
          rw [filterNode_of_settled o (path.child "filters") node h.2]

theorem optionalPopulate_of_settled (path : KeyPath) : (included : Option Populate) →
    Settled o (Populate.sitesOfOption o.typeField path included) →
      (optionalPopulate o path included).value = included
  | none, _ => rfl
  | some value, h => by
      simp only [Populate.sitesOfOption] at h
      simp only [optionalPopulate, Traced.value_bind, Traced.value_pure]
      rw [populate_of_settled path value h]

end

/-! ## Intents -/

namespace Intent

variable {o} (i : Intent)

theorem normalize_of_settled (h : Settled o (i.sites o.typeField)) : (i.normalize o).1 = i := by
  obtain ⟨conditions, included, _, _, _, _, _, _⟩ := i
  simp only [sites, settled_append] at h
  have hp := optionalPopulate_of_settled o (KeyPath.ofRoot "populate") included h.2
  cases conditions with
  | none => simp [normalize, Normalization.intent, Normalization.filters, hp]
  | some node =>
      have hn := filterNode_of_settled o (KeyPath.ofRoot "filters") node h.1
      simp [normalize, Normalization.intent, Normalization.filters, hp, hn]

theorem normalize_isNormal : (i.normalize o).1.IsNormal o := by
  intro left hl
  rw [sites_normalize] at hl
  obtain ⟨site, _, hs⟩ := List.mem_filterMap.mp hl
  exact Site.isNormal_of_normalized? hs

variable {given : List String} (hg : o.typeCodes = TypeCodes.ofList given)

include hg

theorem normalize_of_isNormal (h : i.IsNormal o) : (i.normalize o).1 = i :=
  i.normalize_of_settled fun site hs => Site.normalized?_of_isNormal hg (h site hs)

/-- The report on an intent in normal form only says which lists of type codes are empty. -/
theorem changes_of_isNormal (h : i.IsNormal o) :
    (i.normalize o).2.changes = (i.normalize o).2.emptiedFields.map Change.emptied := by
  rw [changes_normalize, Site.sitesChanges_of_isNormal hg h, emptiedFields_normalize, List.map_map]
  rfl

theorem emptiedFields_normalize_twice :
    ((i.normalize o).1.normalize o).2.emptiedFields = (i.normalize o).2.emptiedFields := by
  rw [emptiedFields_normalize, emptiedFields_normalize, sites_normalize]
  exact Site.emptied_sitesLeft hg _

omit hg

/-- Normalization gives an intent in normal form, and gives an intent back exactly if it is in
normal form. So a second run changes nothing; its report lists the same emptied fields as the first,
and nothing else. -/
theorem normalize_reaches_normal_form (typeField : String) (given : List String)
    (expandDates : Bool) :
    let o : Options := ⟨typeField, TypeCodes.ofList given, expandDates⟩
    let first := i.normalize o
    let second := first.1.normalize o
    first.1.IsNormal o ∧ (first.1 = i ↔ i.IsNormal o) ∧ second.1 = first.1 ∧
      second.2.droppedValues = [] ∧ second.2.expandedDates = 0 ∧
      second.2.canonicalizedCodes = 0 ∧ second.2.emptiedFields = first.2.emptiedFields := by
  intro o first second
  have hn : first.1.IsNormal o := i.normalize_isNormal
  have hc : second.2 = ⟨second.2.emptiedFields.map Change.emptied⟩ :=
    congrArg Report.mk (first.1.changes_of_isNormal rfl hn)
  refine ⟨hn, ⟨fun h => h ▸ hn, i.normalize_of_isNormal rfl⟩, first.1.normalize_of_isNormal rfl hn,
    ?_, ?_, ?_, i.emptiedFields_normalize_twice rfl⟩
  · rw [hc, Report.droppedValues_emptied]
  · rw [hc, Report.expandedDates_emptied]
  · rw [hc, Report.canonicalizedCodes_emptied]

end Intent

end BracketQuery
