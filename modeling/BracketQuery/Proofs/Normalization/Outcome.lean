import BracketQuery.Proofs.Normalization.Report
import BracketQuery.Proofs.Normalization.Site

/-!
What the report says of emptied lists, and so the outcome, in terms of the sites of an intent.
-/

namespace BracketQuery

open Normalization

namespace Normalization.Report

theorem outcome_eq_matchesNothing_iff (report : Report) :
    report.outcome = .matchesNothing ↔ report.emptiedFields ≠ [] := by
  unfold outcome
  cases report.emptiedFields with
  | nil => by_cases h : report.isClean = true <;> simp [h]
  | cons => simp

end Normalization.Report

variable (o : Options)

namespace Site

/-- Whether a site is a list of type codes none of which is known. -/
def isEmptied : Site → Bool
  | ⟨_, true, .list values⟩ => (o.codes values).isEmpty
  | _ => false

/-- Whether a site is a single type code that is not known. -/
def isRemoved : Site → Bool
  | ⟨_, true, .scalar value⟩ => (o.code? value).isNone
  | _ => false

theorem emptiedFields_codeChanges (path : KeyPath) (value : Scalar) :
    Report.emptiedFields ⟨o.codeChanges path value⟩ = [] := by
  unfold Options.codeChanges
  split
  · split <;> rfl
  · rfl

theorem emptiedFields_dateChanges (value : Scalar) :
    Report.emptiedFields ⟨o.dateChanges value⟩ = [] := by
  unfold Options.dateChanges
  split <;> rfl

/-- Changes of single values are no reports of an emptied list. -/
theorem emptiedFields_flatMap {f : Scalar → List Change}
    (h : ∀ value, Report.emptiedFields ⟨f value⟩ = []) (values : List Scalar) :
    Report.emptiedFields ⟨values.flatMap f⟩ = [] := by
  induction values with
  | nil => rfl
  | cons value rest ih => simp [h, ih]

theorem emptiedFields_changes : (site : Site) →
    Report.emptiedFields ⟨site.changes o⟩ = if site.isEmptied o then [site.path] else []
  | ⟨path, true, .list values⟩ => by
      have he : ∀ b : Bool, Report.emptiedFields ⟨if b then [.emptied path] else []⟩ =
          if b then [path] else [] := by
        intro b
        cases b <;> rfl
      rw [changes, Report.emptiedFields_append, he,
        emptiedFields_flatMap (emptiedFields_codeChanges o path)]
      rfl
  | ⟨path, true, .scalar value⟩ => emptiedFields_codeChanges o path value
  | ⟨_, false, .list values⟩ => emptiedFields_flatMap (emptiedFields_dateChanges o) values
  | ⟨_, false, .scalar value⟩ => emptiedFields_dateChanges o value

end Site

theorem emptiedFields_sitesChanges (sites : List Site) :
    Report.emptiedFields ⟨sitesChanges o sites⟩ =
      (sites.filter fun site => site.isEmptied o).map Site.path := by
  induction sites with
  | nil => rfl
  | cons site rest ih =>
      rw [sitesChanges_cons, Report.emptiedFields_append, ih, Site.emptiedFields_changes]
      cases h : site.isEmptied o <;> simp [h]

namespace Intent

variable (i : Intent)

theorem emptiedFields_normalize :
    (i.normalize o).2.emptiedFields =
      ((i.sites o.typeField).filter fun site => site.isEmptied o).map Site.path := by
  rw [← emptiedFields_sitesChanges, ← changes_normalize]

/-- Nothing matches, by the outcome, exactly when some list of type codes has no known one. -/
theorem outcome_eq_matchesNothing_iff :
    (i.normalize o).2.outcome = .matchesNothing ↔
      ∃ site ∈ i.sites o.typeField, site.isEmptied o = true := by
  rw [Report.outcome_eq_matchesNothing_iff, emptiedFields_normalize]
  simp

end Intent

end BracketQuery
