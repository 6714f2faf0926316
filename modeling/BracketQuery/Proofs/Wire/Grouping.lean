import BracketQuery.Proofs.Normalization.Reconciliation
import BracketQuery.Proofs.Wire.Cover

/-!
The parameters of an intent are grouped by category, in the order in which the categories are
declared, each at its root and below. Relation filters are sent as part of what is included, and
what a category sends depends on its own member of the intent only.
-/

namespace BracketQuery

/-- Categories come in the order of their declaration. -/
instance : LE Category := ⟨fun a b => a.ctorIdx ≤ b.ctorIdx⟩

instance : DecidableLE Category := fun a b => inferInstanceAs (Decidable (a.ctorIdx ≤ b.ctorIdx))

/-- Two intents have the same member for a category. -/
def Intent.AgreesOn (i j : Intent) : Category → Prop
  | .filters => i.filters = j.filters
  | .populate => i.populate = j.populate
  | .sort => i.sort = j.sort
  | .pagination => i.pagination = j.pagination
  | .fields => i.fields = j.fields
  | .locale => i.locale = j.locale
  | .publicationState => i.publicationState = j.publicationState
  | .search => i.search = j.search

/-! ## Relation filters -/

/-- The parameters that a site of relation filters sends. -/
def Site.lowerOfRelation (site : Site) : Params :=
  site.lower.map fun p => { p with category := .populate }

theorem FilterNode.lowerOfRelation_eq_flatMap_sites (typeField : String) (path : KeyPath)
    (node : FilterNode) :
    FilterNode.lowerOfRelation path node =
      (FilterNode.sites typeField path node).flatMap Site.lowerOfRelation := by
  rw [FilterNode.lowerOfRelation, FilterNode.lower_eq_flatMap_sites typeField, List.map_flatMap]
  rfl

mutual

/-- What relation filters send is sent with the inclusion, in its order. -/
theorem Populate.sites_sublist (typeField : String) (path : KeyPath) : (included : Populate) →
    ((included.sites typeField path).flatMap Site.lowerOfRelation).Sublist (included.lower path)
  | .shaped entries => by
      simpa only [Populate.sites, Populate.lower] using
        Populate.sitesOfRelations_sublist typeField path entries
  | .all | .relation _ | .relations _ => by simp [Populate.sites]

theorem Populate.sitesOfRelations_sublist (typeField : String) (path : KeyPath) :
    (entries : List (String × RelationPopulate)) →
      ((Populate.sitesOfRelations typeField path entries).flatMap Site.lowerOfRelation).Sublist
        (Populate.lowerRelations path entries)
  | [] => by simp [Populate.sitesOfRelations]
  | (name, inclusion) :: rest => by
      simp only [Populate.sitesOfRelations, Populate.lowerRelations, List.flatMap_append]
      exact (RelationPopulate.sites_sublist typeField (path.child name) inclusion).append
        (Populate.sitesOfRelations_sublist typeField path rest)

theorem RelationPopulate.sites_sublist (typeField : String) (path : KeyPath) :
    (inclusion : RelationPopulate) →
      ((inclusion.sites typeField path).flatMap Site.lowerOfRelation).Sublist (inclusion.lower path)
  | .flag _ | .name _ => by simp [RelationPopulate.sites]
  | .shape shape => by
      simp only [RelationPopulate.sites, RelationPopulate.lower]
      split
      · rename_i he
        obtain rfl := eq_empty_of_isEmpty he
        simp [PopulateShape.empty, PopulateShape.sites, Populate.sitesOfOption]
      · exact PopulateShape.sites_sublist typeField path shape

theorem PopulateShape.sites_sublist (typeField : String) (path : KeyPath) :
    (shape : PopulateShape) →
      ((shape.sites typeField path).flatMap Site.lowerOfRelation).Sublist (shape.lower path)
  | .mk fields inner sort conditions => by
      have hi := Populate.sitesOfOption_sublist typeField (path.child "populate") inner
      simp only [PopulateShape.sites, PopulateShape.lower, List.flatMap_append]
      refine List.Sublist.append ?_ ?_
      · exact (hi.trans (List.sublist_append_right _ _)).trans (List.sublist_append_left _ _)
      · cases conditions with
        | none => exact List.Sublist.refl []
        | some node =>
            simp only [FilterNode.lowerOfRelation_eq_flatMap_sites typeField, List.Sublist.refl]

theorem Populate.sitesOfOption_sublist (typeField : String) (path : KeyPath) :
    (included : Option Populate) →
      ((Populate.sitesOfOption typeField path included).flatMap Site.lowerOfRelation).Sublist
        (Populate.lowerOption path included)
  | none => List.Sublist.refl []
  | some value => by
      simpa only [Populate.sitesOfOption, Populate.lowerOption] using
        Populate.sites_sublist typeField path value

end

/-! ## Intents -/

namespace Intent

variable (i : Intent)

theorem lower_pairwise : i.lower.Pairwise fun p q => p.category ≤ q.category := by
  have hall : Category.all.Pairwise (· ≤ ·) := by decide
  rw [lower_eq_flatMap, List.pairwise_flatMap]
  constructor
  · intro category _
    refine List.pairwise_of_forall_mem_list fun p hp q hq => ?_
    rw [i.lowerOf_allOf category p hp, i.lowerOf_allOf category q hq]
    exact Nat.le_refl _
  · refine hall.imp fun hle p hp q hq => ?_
    rw [i.lowerOf_allOf _ p hp, i.lowerOf_allOf _ q hq]
    exact hle

/-- A parameter is sent at the root of its category or below it. -/
theorem lower_covers : ∀ p ∈ i.lower, (KeyPath.ofRoot p.category.root).Covers p.key := by
  intro p hp
  rw [lower_eq_flatMap] at hp
  obtain ⟨category, _, hp⟩ := List.mem_flatMap.mp hp
  rw [i.lowerOf_allOf category p hp]
  exact i.lowerOf_covers category p hp

theorem lowerOf_filters_eq_flatMap_sites (typeField : String) :
    i.lowerOf .filters = (i.filterSites typeField).flatMap Site.lower := by
  rw [lowerOf, filterSites]
  cases i.filters with
  | none => rfl
  | some node => exact FilterNode.lower_eq_flatMap_sites typeField _ node

theorem lowerOf_congr {i j : Intent} {category : Category} (h : i.AgreesOn j category) :
    i.lowerOf category = j.lowerOf category := by
  cases category <;> simp only [AgreesOn] at h <;> simp only [lowerOf, h]

/-- The categories of what an intent sends do not decrease; every key is the root of its category or
goes on below it; the parameters of the filters are those of the sites of the filters, while those
of relation filters, at any depth, are sent among those of what is included; and two intents with
the same member for a category send the same parameters of this category. -/
theorem lower_is_grouped :
    (i.lower.Pairwise fun p q => p.category ≤ q.category) ∧
      (∀ p ∈ i.lower, (KeyPath.ofRoot p.category.root).Covers p.key) ∧
      (∀ typeField,
        i.lower.ofCategory .filters = (i.filterSites typeField).flatMap Site.lower ∧
          ((i.relationSites typeField).flatMap Site.lowerOfRelation).Sublist
            (i.lower.ofCategory .populate)) ∧
      ∀ (j : Intent) (category : Category), i.AgreesOn j category →
        i.lower.ofCategory category = j.lower.ofCategory category := by
  refine ⟨i.lower_pairwise, i.lower_covers, fun typeField => ⟨?_, ?_⟩, fun j category h => ?_⟩
  · rw [ofCategory_lower, lowerOf_filters_eq_flatMap_sites]
  · rw [ofCategory_lower]
    exact Populate.sitesOfOption_sublist typeField _ i.populate
  · rw [ofCategory_lower, ofCategory_lower, lowerOf_congr h]

/-- Relation filters two relations deep, in two requests that have nothing else in common. -/
theorem relation_filters_sent_as_included :
    let inner := Populate.shaped [("address", .shape (.mk [] none []
      (some [("city", .scalar (.string "x"))])))]
    let included := Populate.shaped [("customer", .shape (.mk ["name"] (some inner) []
      (some [("$or", .group [[("type", .operators [(.isIn, .list [.string "a"])])]])])))]
    let i : Intent := { Intent.empty with
      filters := some [("type", .scalar (.string "a"))], populate := some included }
    let j : Intent := { Intent.empty with populate := some included, search := some "a" }
    i.AgreesOn j .populate ∧ i.lower.ofCategory .populate = j.lower.ofCategory .populate ∧
      (i.lower.ofCategory .populate).pairs = [("populate[customer][fields][0]", "name"),
        ("populate[customer][populate][address][filters][city]", "x"),
        ("populate[customer][filters][$or][0][type][$in][0]", "a")] := by
  intro inner included i j
  have h : i.AgreesOn j .populate := rfl
  exact ⟨h, i.lower_is_grouped.2.2.2 j .populate h, by decide +kernel⟩

end Intent

end BracketQuery
