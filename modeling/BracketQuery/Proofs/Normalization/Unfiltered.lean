import BracketQuery.Proofs.Normalization.Outcome
import BracketQuery.Proofs.Wire.Category

/-!
Requests that are filtered before normalization and unfiltered after it. Those in which a list of
type codes was emptied are marked by the outcome. The others are exactly those whose filters send
nothing but single type codes, none of them known.
-/

namespace BracketQuery

open Normalization

variable (o : Options)

namespace Site

theorem lower_eq_nil_iff (site : Site) : site.lower = [] ↔ site.operand = .list [] := by
  obtain ⟨path, coded, operand⟩ := site
  cases operand <;> simp [lower, Operand.lower, lowerIndexed]

/-- Nothing is sent of a site that is removed, or emptied, or was an empty list. -/
theorem lower_normalized_eq_nil_iff : (site : Site) →
    ((site.normalized? o).toList.flatMap lower = [] ↔
      site.isRemoved o = true ∨ site.isEmptied o = true ∨ site.operand = .list [])
  | ⟨path, true, .list values⟩ => by
      have hc : o.codes values = [] ∨ values = [] ↔ o.codes values = [] :=
        ⟨fun h => h.elim id fun h => by simp [h, Options.codes], .inl⟩
      simp [normalized?, lower_eq_nil_iff, isRemoved, isEmptied, hc]
  | ⟨path, true, .scalar value⟩ => by
      cases h : o.code? value <;> simp [normalized?, lower_eq_nil_iff, isRemoved, isEmptied, h]
  | ⟨path, false, .list values⟩ => by simp [normalized?, lower_eq_nil_iff, isRemoved, isEmptied]
  | ⟨path, false, .scalar value⟩ => by simp [normalized?, lower_eq_nil_iff, isRemoved, isEmptied]

theorem operand_of_isRemoved : {site : Site} → site.isRemoved o = true → site.operand ≠ .list []
  | ⟨_, true, .scalar _⟩, _ => by simp
  | ⟨_, true, .list _⟩, h => by simp [isRemoved] at h
  | ⟨_, false, _⟩, h => by simp [isRemoved] at h

end Site

namespace Intent

variable (i : Intent)

/-- The filters of an intent send something, but nothing except single type codes that are not
known; and no list of type codes of the intent is without a known one. -/
def LosesFilters : Prop :=
  (∃ site ∈ i.filterSites o.typeField, site.isRemoved o = true) ∧
    (∀ site ∈ i.filterSites o.typeField, site.isRemoved o = true ∨ site.operand = .list []) ∧
    ∀ site ∈ i.sites o.typeField, site.isEmptied o = false

theorem filters_lower_eq_flatMap_sites (typeField : String) :
    i.lower.ofCategory .filters = (i.filterSites typeField).flatMap Site.lower := by
  rw [ofCategory_lower, lowerOf, FilterNode.lower_eq_flatMap_sites typeField, filterSites]
  cases i.filters <;> rfl

theorem filtered_iff (typeField : String) :
    i.lower.ofCategory .filters ≠ [] ↔
      ∃ site ∈ i.filterSites typeField, site.operand ≠ .list [] := by
  rw [filters_lower_eq_flatMap_sites i typeField, ne_eq, List.flatMap_eq_nil_iff]
  simp [Site.lower_eq_nil_iff]

theorem unfiltered_normalize_iff :
    (i.normalize o).1.lower.ofCategory .filters = [] ↔
      ∀ site ∈ i.filterSites o.typeField,
        site.isRemoved o = true ∨ site.isEmptied o = true ∨ site.operand = .list [] := by
  rw [filters_lower_eq_flatMap_sites _ o.typeField, filterSites_normalize]
  induction i.filterSites o.typeField with
  | nil => simp [sitesLeft]
  | cons site rest ih =>
      rw [sitesLeft_cons, List.flatMap_append, List.append_eq_nil_iff,
        Site.lower_normalized_eq_nil_iff, ih, List.forall_mem_cons]

theorem not_emptied_of_outcome (h : (i.normalize o).2.outcome ≠ .matchesNothing) :
    ∀ site ∈ i.sites o.typeField, site.isEmptied o = false := by
  intro site hs
  refine Bool.eq_false_iff.mpr fun he => ?_
  exact h ((i.outcome_eq_matchesNothing_iff o).mpr ⟨site, hs, he⟩)

/-- A request that was filtered and is sent unfiltered after normalization is marked as matching
nothing, except when its filters send nothing but single type codes that are not known. -/
theorem marked_when_unfiltered_iff :
    (i.lower.ofCategory .filters ≠ [] →
      (i.compileNormalized o).2.1.lower.ofCategory .filters = [] →
      (i.compileNormalized o).2.2.outcome = .matchesNothing) ↔ ¬ i.LosesFilters o := by
  change (_ → (i.normalize o).1.lower.ofCategory .filters = [] →
    (i.normalize o).2.outcome = .matchesNothing) ↔ _
  rw [i.filtered_iff o.typeField, i.unfiltered_normalize_iff o]
  constructor
  · rintro h ⟨⟨site, hs, hr⟩, hall, hne⟩
    have hf : site.operand ≠ .list [] := Site.operand_of_isRemoved o hr
    have hu := fun s hs => (hall s hs).imp_right (Or.inr (a := s.isEmptied o = true))
    obtain ⟨emptied, he, hm⟩ := (i.outcome_eq_matchesNothing_iff o).mp (h ⟨site, hs, hf⟩ hu)
    simp [hne emptied he] at hm
  · rintro h ⟨site, hs, hf⟩ hu
    refine Decidable.byContradiction fun ho => h ?_
    have hne := i.not_emptied_of_outcome o ho
    -- With no list emptied, whatever is no longer sent was removed or was never sent.
    have hall : ∀ s ∈ i.filterSites o.typeField, s.isRemoved o = true ∨ s.operand = .list [] := by
      intro s hs
      rcases hu s hs with hr | he | hl
      · exact .inl hr
      · simp [hne s (List.mem_append_left _ hs)] at he
      · exact .inr hl
    exact ⟨⟨site, hs, (hall site hs).resolve_right hf⟩, hall, hne⟩

/-- A single unknown type code is all that is sent, and then nothing is, without a mark. -/
theorem unknown_code_unmarked :
    let i : Intent := { Intent.empty with
      filters := some [("type", .operators [(.eq, .scalar (.string "bogus"))])] }
    i.lower.ofCategory .filters = [⟨.filters, "filters[type][$eq]", "bogus"⟩] ∧
      (i.compileNormalized Options.standard).2.1.lower.ofCategory .filters = [] ∧
      (i.compileNormalized Options.standard).2.2.outcome = .normalized := by
  rw [Options.standard_eq]
  decide +kernel

end Intent

end BracketQuery
