import BracketQuery.Intent

/-!
The meaning of filter trees, relative to an interpretation of their leaves. A node holds when all
its entries hold, a group under `$and` when all members hold and under `$or` when one does, and
conditions on a relation when they hold of a related row. A tree holds of no row of any
interpretation exactly when an empty `$in` list refutes it.
-/

namespace BracketQuery

/-- What the leaves of filter trees mean for rows. No value is in an empty list. -/
structure Interpretation (Row : Type) where
  comparison : String → Operator → Operand → Row → Prop
  /-- A single value under a field. -/
  value : String → Scalar → Row → Prop
  /-- A list of values under a field. -/
  values : String → List Scalar → Row → Prop
  /-- Whether the second row is related to the first by a relation. -/
  related : String → Row → Row → Prop
  /-- A group under a key that is no combinator. -/
  group : String → List FilterNode → Row → Prop
  in_nil : ∀ field row, ¬ comparison field .isIn (.list []) row

section

variable {Row : Type} (I : Interpretation Row)

mutual

/-- Whether the condition under a key holds for a row. -/
def FilterValue.Holds (key : String) : FilterValue → Row → Prop
  | .operators comparisons, row => ∀ c ∈ comparisons, I.comparison key c.1 c.2 row
  | .nested node, row => ∃ other, I.related key row other ∧ FilterNode.Holds node other
  | .scalar value, row => I.value key value row
  | .list values, row => I.values key values row
  | .group members, row =>
    if key = allOfKey then FilterNode.AllHold members row
    else if key = anyOfKey then FilterNode.AnyHolds members row
    else I.group key members row

/-- Whether a node holds for a row. -/
def FilterNode.Holds : FilterNode → Row → Prop
  | [], _ => True
  | (key, value) :: rest, row => FilterValue.Holds key value row ∧ FilterNode.Holds rest row

/-- Whether all members of a group hold for a row. -/
def FilterNode.AllHold : List FilterNode → Row → Prop
  | [], _ => True
  | node :: rest, row => FilterNode.Holds node row ∧ FilterNode.AllHold rest row

/-- Whether a member of a group holds for a row. -/
def FilterNode.AnyHolds : List FilterNode → Row → Prop
  | [], _ => False
  | node :: rest, row => FilterNode.Holds node row ∨ FilterNode.AnyHolds rest row

end

/-- Whether an intent selects a row. -/
def Intent.Matches (i : Intent) (row : Row) : Prop := FilterNode.Holds I (i.filters.getD []) row

end

/-! ## Refuted trees -/

mutual

/-- Whether an empty `$in` list makes the condition under a key false. -/
def FilterValue.isRefuted (key : String) : FilterValue → Bool
  | .operators comparisons => comparisons.contains (.isIn, .list [])
  | .nested node => FilterNode.isRefuted node
  | .scalar _ | .list _ => false
  | .group members =>
    if key = allOfKey then FilterNode.someRefuted members
    else if key = anyOfKey then FilterNode.allRefuted members
    else false

/-- Whether an empty `$in` list makes a node false. -/
def FilterNode.isRefuted : FilterNode → Bool
  | [] => false
  | (key, value) :: rest => FilterValue.isRefuted key value || FilterNode.isRefuted rest

/-- Whether a member of a group is refuted. -/
def FilterNode.someRefuted : List FilterNode → Bool
  | [] => false
  | node :: rest => FilterNode.isRefuted node || FilterNode.someRefuted rest

/-- Whether all members of a group are refuted. -/
def FilterNode.allRefuted : List FilterNode → Bool
  | [] => true
  | node :: rest => FilterNode.isRefuted node && FilterNode.allRefuted rest

end

section

variable {Row : Type} (I : Interpretation Row)

mutual

theorem FilterValue.not_holds_of_isRefuted (key : String) : (value : FilterValue) →
    value.isRefuted key = true → ∀ row, ¬ value.Holds I key row
  | .operators comparisons, h => by
      intro row hh
      simp only [FilterValue.isRefuted, List.contains_iff_mem] at h
      exact I.in_nil key row (hh _ h)
  | .nested node, h => by
      rintro row ⟨other, _, hn⟩
      exact FilterNode.not_holds_of_isRefuted node h other hn
  | .scalar _, h => by simp [FilterValue.isRefuted] at h
  | .list _, h => by simp [FilterValue.isRefuted] at h
  | .group members, h => by
      intro row
      simp only [FilterValue.isRefuted] at h
      simp only [FilterValue.Holds]
      split
      · rename_i hk
        simp only [hk, ↓reduceIte] at h
        exact FilterNode.not_allHold_of_someRefuted members h row
      · rename_i hk
        simp only [hk, ↓reduceIte] at h
        split
        · rename_i hk'
          simp only [hk', ↓reduceIte] at h
          exact FilterNode.not_anyHolds_of_allRefuted members h row
        · rename_i hk'
          simp [hk'] at h

theorem FilterNode.not_holds_of_isRefuted : (node : FilterNode) →
    FilterNode.isRefuted node = true → ∀ row, ¬ FilterNode.Holds I node row
  | [], h => by simp [FilterNode.isRefuted] at h
  | (key, value) :: rest, h => by
      rintro row ⟨hv, hr⟩
      simp only [FilterNode.isRefuted, Bool.or_eq_true] at h
      rcases h with h | h
      · exact FilterValue.not_holds_of_isRefuted key value h row hv
      · exact FilterNode.not_holds_of_isRefuted rest h row hr

theorem FilterNode.not_allHold_of_someRefuted : (members : List FilterNode) →
    FilterNode.someRefuted members = true → ∀ row, ¬ FilterNode.AllHold I members row
  | [], h => by simp [FilterNode.someRefuted] at h
  | node :: rest, h => by
      rintro row ⟨hn, hr⟩
      simp only [FilterNode.someRefuted, Bool.or_eq_true] at h
      rcases h with h | h
      · exact FilterNode.not_holds_of_isRefuted node h row hn
      · exact FilterNode.not_allHold_of_someRefuted rest h row hr

theorem FilterNode.not_anyHolds_of_allRefuted : (members : List FilterNode) →
    FilterNode.allRefuted members = true → ∀ row, ¬ FilterNode.AnyHolds I members row
  | [], _ => fun _ h => h
  | node :: rest, h => by
      simp only [FilterNode.allRefuted, Bool.and_eq_true] at h
      rintro row (hn | hr)
      · exact FilterNode.not_holds_of_isRefuted node h.1 row hn
      · exact FilterNode.not_anyHolds_of_allRefuted rest h.2 row hr

end

end

/-! ## A row that passes whatever can be passed -/

/-- One row, related to itself, for which every leaf but an empty `$in` list holds. -/
def Interpretation.lenient : Interpretation Unit where
  comparison _ operator operand _ := (operator, operand) ≠ (.isIn, .list [])
  value _ _ _ := True
  values _ _ _ := True
  related _ _ _ := True
  group _ _ _ := True
  in_nil := by simp

mutual

theorem FilterValue.holds_lenient (key : String) : (value : FilterValue) →
    value.isRefuted key = false → value.Holds .lenient key ()
  | .operators comparisons, h => by
      intro c hc he
      simp only [FilterValue.isRefuted, List.contains_eq_mem, decide_eq_false_iff_not] at h
      exact h (he ▸ hc)
  | .nested node, h => ⟨(), trivial, FilterNode.holds_lenient node h⟩
  | .scalar _, _ => trivial
  | .list _, _ => trivial
  | .group members, h => by
      simp only [FilterValue.isRefuted] at h
      simp only [FilterValue.Holds]
      split
      · rename_i hk
        simp only [hk, ↓reduceIte] at h
        exact FilterNode.allHold_lenient members h
      · rename_i hk
        simp only [hk, ↓reduceIte] at h
        split
        · rename_i hk'
          simp only [hk', ↓reduceIte] at h
          exact FilterNode.anyHolds_lenient members h
        · trivial

theorem FilterNode.holds_lenient : (node : FilterNode) →
    FilterNode.isRefuted node = false → FilterNode.Holds .lenient node ()
  | [], _ => trivial
  | (key, value) :: rest, h => by
      simp only [FilterNode.isRefuted, Bool.or_eq_false_iff] at h
      exact ⟨FilterValue.holds_lenient key value h.1, FilterNode.holds_lenient rest h.2⟩

theorem FilterNode.allHold_lenient : (members : List FilterNode) →
    FilterNode.someRefuted members = false → FilterNode.AllHold .lenient members ()
  | [], _ => trivial
  | node :: rest, h => by
      simp only [FilterNode.someRefuted, Bool.or_eq_false_iff] at h
      exact ⟨FilterNode.holds_lenient node h.1, FilterNode.allHold_lenient rest h.2⟩

theorem FilterNode.anyHolds_lenient : (members : List FilterNode) →
    FilterNode.allRefuted members = false → FilterNode.AnyHolds .lenient members ()
  | [], h => by simp [FilterNode.allRefuted] at h
  | node :: rest, h => by
      simp only [FilterNode.allRefuted, Bool.and_eq_false_iff] at h
      rcases h with h | h
      · exact .inl (FilterNode.holds_lenient node h)
      · exact .inr (FilterNode.anyHolds_lenient rest h)

end

/-- A node holds for no row at all exactly when it is refuted. -/
theorem FilterNode.never_holds_iff (node : FilterNode) :
    (∀ (Row : Type) (I : Interpretation Row) (row : Row), ¬ FilterNode.Holds I node row) ↔
      FilterNode.isRefuted node = true := by
  constructor
  · intro h
    cases hr : FilterNode.isRefuted node with
    | false => exact absurd (FilterNode.holds_lenient node hr) (h Unit .lenient ())
    | true => rfl
  · intro h Row I row
    exact FilterNode.not_holds_of_isRefuted I node h row

end BracketQuery
