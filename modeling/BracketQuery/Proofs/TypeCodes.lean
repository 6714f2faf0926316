import BracketQuery.Proofs.Text.Casing
import BracketQuery.TypeCodes
import Mathlib.Data.List.Induction

/-!
The codes of a list are the clean forms of the given ones, but for the empty form. They are in lower
case, so the form in which a candidate is found is a code itself.
-/

namespace BracketQuery.TypeCodes

theorem codes_append_singleton (given : List String) (code : String) :
    (ofList (given ++ [code])).codes = add (ofList given).codes code := by
  simp only [ofList, List.foldl_append, List.foldl_cons, List.foldl_nil]

theorem mem_add_iff {codes : List String} {added code : String} :
    code ∈ add codes added ↔ code ∈ codes ∨ code ≠ "" ∧ code = clean added := by
  simp only [add]
  split
  · rename_i h
    refine ⟨.inl, ?_⟩
    rintro (hc | ⟨hne, rfl⟩)
    · exact hc
    · exact h.resolve_left hne
  · rename_i h
    rw [List.mem_append, List.mem_singleton]
    refine or_congr_right ⟨?_, And.right⟩
    rintro rfl
    exact ⟨fun he => h (.inl he), rfl⟩

theorem mem_codes_iff {given : List String} {code : String} :
    code ∈ (ofList given).codes ↔ code ≠ "" ∧ code ∈ given.map clean := by
  induction given using List.reverseRecOn with
  | nil => simp [ofList]
  | append_singleton given added ih =>
      rw [codes_append_singleton, mem_add_iff, ih, List.map_append, List.mem_append, and_or_left,
        List.map_singleton, List.mem_singleton]

theorem lowercase_of_mem {given : List String} {code : String} (h : code ∈ (ofList given).codes) :
    Text.lowercase code = code := by
  obtain ⟨g, _, rfl⟩ := List.mem_map.mp (mem_codes_iff.mp h).2
  exact Text.lowercase_lowercase _

theorem canonicalize?_eq_some_iff {known : TypeCodes} {candidate code : String} :
    known.canonicalize? candidate = some code ↔
      Text.lowercase candidate = code ∧ code ∈ known.codes := by
  simp only [canonicalize?, Option.ite_none_right_eq_some, Option.some.injEq]
  constructor
  · rintro ⟨h, rfl⟩
    exact ⟨rfl, h⟩
  · rintro ⟨rfl, h⟩
    exact ⟨h, rfl⟩

/-- A code stands for itself, and nothing else is a candidate's canonical form. -/
theorem canonicalize?_eq_self_iff (given : List String) (code : String) :
    (ofList given).canonicalize? code = some code ↔ code ∈ (ofList given).codes := by
  rw [canonicalize?_eq_some_iff]
  exact ⟨And.right, fun h => ⟨lowercase_of_mem h, h⟩⟩

/-- The standard codes are in clean form as they are given. -/
theorem standard_eq : standard =
    ⟨["sale", "purchase", "return", "transfer", "adjustment", "partial_invoice"]⟩ := by
  decide +kernel

end BracketQuery.TypeCodes
