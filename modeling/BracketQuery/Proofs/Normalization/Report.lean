import BracketQuery.Normalization.Report

/-!
The parts of a report: on consecutive stretches of changes they are put together in order.
-/

namespace BracketQuery.Normalization.Report

variable (xs ys : List Change)

@[simp] theorem droppedValues_append :
    droppedValues ⟨xs ++ ys⟩ = droppedValues ⟨xs⟩ ++ droppedValues ⟨ys⟩ := List.filterMap_append

@[simp] theorem emptiedFields_append :
    emptiedFields ⟨xs ++ ys⟩ = emptiedFields ⟨xs⟩ ++ emptiedFields ⟨ys⟩ := List.filterMap_append

@[simp] theorem expandedDates_append :
    expandedDates ⟨xs ++ ys⟩ = expandedDates ⟨xs⟩ + expandedDates ⟨ys⟩ := List.count_append

@[simp] theorem canonicalizedCodes_append :
    canonicalizedCodes ⟨xs ++ ys⟩ = canonicalizedCodes ⟨xs⟩ + canonicalizedCodes ⟨ys⟩ :=
  List.count_append

/-! ## A report of emptied lists alone -/

variable (paths : List KeyPath)

theorem droppedValues_emptied : droppedValues ⟨paths.map Change.emptied⟩ = [] := by
  simp [droppedValues, List.filterMap_map]

theorem expandedDates_emptied : expandedDates ⟨paths.map Change.emptied⟩ = 0 := by
  simp [expandedDates, List.count_eq_zero]

theorem canonicalizedCodes_emptied : canonicalizedCodes ⟨paths.map Change.emptied⟩ = 0 := by
  simp [canonicalizedCodes, List.count_eq_zero]

end BracketQuery.Normalization.Report
