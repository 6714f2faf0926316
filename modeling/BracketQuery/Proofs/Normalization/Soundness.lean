import BracketQuery.Proofs.Filter.Meaning
import BracketQuery.Proofs.Normalization.Outcome

/-!
What the outcome says of the rows that a normalized request selects. That nothing matches is true of
an intent with an emptied list exactly when the filters are refuted; a list that is emptied in an
alternative or in the filters of a relation marks the request, but leaves rows to be found.
-/

namespace BracketQuery

open Normalization

namespace Intent

variable (o : Options) (i : Intent)

/-- The outcome that nothing matches can be relied on exactly when no list of type codes is without
a known one, or an empty `$in` list refutes the normalized filters. -/
theorem matchesNothing_sound_iff :
    ((i.normalize o).2.outcome = .matchesNothing →
      ∀ (Row : Type) (I : Interpretation Row) (row : Row), ¬ (i.normalize o).1.Matches I row) ↔
    (∀ site ∈ i.sites o.typeField, site.isEmptied o = false) ∨
      FilterNode.isRefuted ((i.normalize o).1.filters.getD []) = true := by
  rw [i.outcome_eq_matchesNothing_iff o]
  simp only [Matches]
  rw [FilterNode.never_holds_iff]
  constructor
  · intro h
    by_cases he : ∃ site ∈ i.sites o.typeField, site.isEmptied o = true
    · exact .inr (h he)
    · exact .inl fun site hs => Bool.eq_false_iff.mpr fun ht => he ⟨site, hs, ht⟩
  · rintro (hn | hr) ⟨site, hs, he⟩
    · simp [hn site hs] at he
    · exact hr

end Intent

/-- Rows by the values of their fields, compared by equality and membership only. -/
def Interpretation.ofFields : Interpretation (String → Option Scalar) where
  comparison field operator operand row :=
    match operator, operand with
    | .isIn, .list values => ∃ value ∈ values, row field = some value
    | .eq, .scalar value => row field = some value
    | _, _ => False
  value field value row := row field = some value
  values field values row := ∃ value ∈ values, row field = some value
  related _ _ _ := False
  group _ _ _ := False
  in_nil := by simp

/-- One of two alternatives is emptied, so the request is marked as matching nothing; a row of the
other type matches it. -/
theorem emptied_alternative_matches :
    let i : Intent := { Intent.empty with
      filters := some [(anyOfKey, .group [
        [("type", .operators [(.isIn, .list [.string "sale"])])],
        [("type", .operators [(.isIn, .list [.string "junk"])])]])] }
    (i.normalize Options.standard).2.outcome = .matchesNothing ∧
      (i.normalize Options.standard).1.Matches .ofFields fun _ => some (.string "sale") := by
  intro i
  have hf : (i.normalize Options.standard).1.filters = some [(anyOfKey, .group [
      [("type", .operators [(.isIn, .list [.string "sale"])])],
      [("type", .operators [(.isIn, .list [])])]])] := by
    rw [Options.standard_eq]
    decide +kernel
  constructor
  · rw [Options.standard_eq]
    decide +kernel
  · simp [Intent.Matches, hf, FilterNode.Holds, FilterValue.Holds, FilterNode.AnyHolds,
      Interpretation.ofFields, allOfKey, anyOfKey]

end BracketQuery
