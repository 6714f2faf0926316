import BracketQuery.Proofs.Normalization.NormalForm

/-!
The report and the outcome are exact: something is noted of an intent if and only if normalization
changes it or leaves a list of type codes empty, and the emptied fields are the paths of the empty
lists of type codes in the normalized intent.
-/

namespace BracketQuery

open Normalization

/-- Whether a site is an empty list of type codes. -/
def Site.isEmptyCodes (site : Site) : Bool := site.coded && decide (site.operand = .list [])

/-- The paths of the empty `$in` lists among the comparisons of the type field, in the order in
which the trees of an intent are gone through. -/
def Intent.emptyCodes (typeField : String) (i : Intent) : List KeyPath :=
  ((i.sites typeField).filter Site.isEmptyCodes).map Site.path

/-! ## Reports -/

namespace Normalization.Report

theorem isClean_iff (report : Report) : report.isClean = true ↔ report.changes = [] := by
  obtain ⟨changes⟩ := report
  cases changes with
  | nil => simp [isClean, droppedValues, emptiedFields, expandedDates, canonicalizedCodes]
  | cons change rest =>
      cases change <;>
        simp [isClean, droppedValues, emptiedFields, expandedDates, canonicalizedCodes]

theorem outcome_eq_unchanged_iff (report : Report) :
    report.outcome = .unchanged ↔ report.changes = [] := by
  rw [← isClean_iff]
  unfold outcome
  cases he : report.emptiedFields with
  | nil => by_cases h : report.isClean = true <;> simp [h]
  | cons => simp [isClean, he]

theorem outcome_eq_normalized_iff (report : Report) :
    report.outcome = .normalized ↔ report.emptiedFields = [] ∧ report.changes ≠ [] := by
  rw [Ne, ← isClean_iff]
  unfold outcome
  cases he : report.emptiedFields with
  | nil => by_cases h : report.isClean = true <;> simp [h]
  | cons => simp

end Normalization.Report

/-! ## Values -/

theorem filterMap_eq_self_iff {α : Type} {f : α → Option α} {xs : List α} :
    xs.filterMap f = xs ↔ ∀ x ∈ xs, f x = some x := by
  induction xs with
  | nil => simp
  | cons x rest ih =>
      rw [List.filterMap_cons, List.forall_mem_cons, ← ih]
      cases h : f x with
      | some y => simp
      | none =>
          -- Without `x` the list is shorter.
          have hle := List.length_filterMap_le f rest
          have hne : rest.filterMap f ≠ x :: rest := by
            intro he
            have hl := congrArg List.length he
            rw [List.length_cons] at hl
            omega
          simp [hne]

variable (o : Options)

namespace Normalization.Options

/-- Nothing is noted of a type code exactly if it is a known one in its canonical form. -/
theorem codeChanges_eq_nil_iff (path : KeyPath) (value : Scalar) :
    o.codeChanges path value = [] ↔ (o.code? value).map Scalar.string = some value := by
  unfold codeChanges
  cases o.code? value with
  | none => simp
  | some code =>
      by_cases h : value = .string code
      · simp [h]
      · simp [h, Ne.symm h]

/-- Nothing is noted of another value exactly if it stays as it is. -/
theorem dateChanges_eq_nil_iff (value : Scalar) :
    o.dateChanges value = [] ↔ o.expanded value = value := by
  unfold dateChanges
  cases h : o.instant? value with
  | none => simp [o.expanded_of_none h]
  | some instant =>
      have hne : Scalar.string instant ≠ value := by
        rintro rfl
        exact o.wireText_ne_instant h rfl
      simp [o.expanded_of_some h, hne]

end Normalization.Options

/-! ## Sites -/

namespace Site

/-- Nothing is noted of a site exactly if it stays as it is and is no list without a known code. -/
theorem changes_eq_nil_iff : (site : Site) →
    (site.changes o = [] ↔ site.normalized? o = some site ∧ site.isEmptied o = false)
  | ⟨path, true, .list values⟩ => by
      simp only [changes, normalized?, isEmptied, List.append_eq_nil_iff, List.flatMap_eq_nil_iff,
        o.codeChanges_eq_nil_iff, ← filterMap_eq_self_iff]
      cases h : (o.codes values).isEmpty <;> simp [Options.codes]
  | ⟨path, true, .scalar value⟩ => by
      simp only [changes, normalized?, isEmptied, o.codeChanges_eq_nil_iff, and_true]
      cases o.code? value <;> simp
  | ⟨_, false, .list values⟩ => by
      have hm : values.map o.expanded = values ↔ ∀ value ∈ values, o.expanded value = value := by
        simpa using List.map_inj_left (f := o.expanded) (g := id) (l := values)
      simp [changes, normalized?, isEmptied, o.dateChanges_eq_nil_iff, hm]
  | ⟨_, false, .scalar value⟩ => by
      simp [changes, normalized?, isEmptied, o.dateChanges_eq_nil_iff]

variable {o}

theorem isEmptyCodes_of_normalized? : {site left : Site} → site.normalized? o = some left →
    left.isEmptyCodes = site.isEmptied o
  | ⟨_, true, .list values⟩, _, h => by
      obtain rfl := Option.some.inj h
      cases hc : o.codes values <;> simp [isEmptyCodes, isEmptied, hc]
  | ⟨_, true, .scalar _⟩, _, h => by
      obtain ⟨_, _, rfl⟩ := Option.map_eq_some_iff.mp h
      rfl
  | ⟨_, false, .list _⟩, _, h => by
      obtain rfl := Option.some.inj h
      rfl
  | ⟨_, false, .scalar _⟩, _, h => by
      obtain rfl := Option.some.inj h
      rfl

end Site

/-! ## Intents -/

namespace Intent

variable (i : Intent)

/-- The emptied fields are the paths of the empty lists that are left. -/
theorem emptiedFields_eq_emptyCodes :
    (i.normalize o).2.emptiedFields = (i.normalize o).1.emptyCodes o.typeField := by
  rw [emptiedFields_normalize, emptyCodes, sites_normalize]
  exact (Site.map_path_filter_sitesLeft o (fun _ _ h => Site.isEmptyCodes_of_normalized? h)
    (fun _ h => Site.isEmptied_of_removed h) _).symm

theorem normalize_eq_self_iff : (i.normalize o).1 = i ↔ Settled o (i.sites o.typeField) := by
  refine ⟨fun h => ?_, i.normalize_of_settled⟩
  have hs := i.sites_normalize o
  rw [h] at hs
  exact filterMap_eq_self_iff.mp hs.symm

/-- Nothing is noted exactly if the intent stays as it is and no list of type codes is empty. -/
theorem changes_eq_nil_iff :
    (i.normalize o).2.changes = [] ↔
      (i.normalize o).1 = i ∧ (i.normalize o).2.emptiedFields = [] := by
  have he : (i.normalize o).2.emptiedFields = [] ↔
      ∀ site ∈ i.sites o.typeField, site.isEmptied o = false := by
    simp [emptiedFields_normalize]
  rw [changes_normalize, normalize_eq_self_iff, he, sitesChanges, List.flatMap_eq_nil_iff]
  simp only [Site.changes_eq_nil_iff, Settled, forall_and]

/-- The report and the outcome of a normalization are exact. The emptied fields are the paths of the
empty lists of type codes in the normalized intent. Nothing matches exactly if there is such a list;
otherwise the outcome tells whether the normalized intent is the given one. -/
theorem outcome_is_exact (i : Intent) (o : Options) :
    let result := i.normalize o
    let emptied := result.1.emptyCodes o.typeField
    result.2.emptiedFields = emptied ∧
      (result.2.outcome = .matchesNothing ↔ emptied ≠ []) ∧
      (result.2.outcome = .unchanged ↔ result.1 = i ∧ emptied = []) ∧
      (result.2.outcome = .normalized ↔ result.1 ≠ i ∧ emptied = []) := by
  intro result emptied
  have he : result.2.emptiedFields = emptied := i.emptiedFields_eq_emptyCodes o
  have hc : result.2.changes = [] ↔ result.1 = i ∧ emptied = [] := he ▸ i.changes_eq_nil_iff o
  refine ⟨he, ?_, ?_, ?_⟩
  · rw [Report.outcome_eq_matchesNothing_iff, he]
  · rw [Report.outcome_eq_unchanged_iff, hc]
  · rw [Report.outcome_eq_normalized_iff, he, and_comm]
    exact and_congr_left fun hn => by simp [hc, hn]

end Intent

end BracketQuery
