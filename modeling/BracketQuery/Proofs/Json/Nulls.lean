import BracketQuery.Proofs.Json.Document

/-!
Documents without the members that are null. The other members keep their order, and a null that is
an element of a list stays.
-/

namespace BracketQuery.Json

mutual

/-- A document without its null members, at every depth. -/
def stripNulls : Json → Json
  | .object members => .object (stripNullMembers members)
  | .array elements => .array (stripNullsOfElements elements)
  | value => value

def stripNullsOfElements : List Json → List Json
  | [] => []
  | element :: rest => stripNulls element :: stripNullsOfElements rest

/-- Members without the null ones, at every depth. -/
def stripNullMembers : List (String × Json) → List (String × Json)
  | [] => []
  | (_, .null) :: rest => stripNullMembers rest
  | (name, value) :: rest => (name, stripNulls value) :: stripNullMembers rest

end

@[simp] theorem stripNulls_null : stripNulls .null = .null := rfl

@[simp] theorem stripNulls_object (members : List (String × Json)) :
    stripNulls (.object members) = .object (stripNullMembers members) := rfl

theorem stripNullsOfElements_eq_map (elements : List Json) :
    stripNullsOfElements elements = elements.map stripNulls := by
  induction elements with
  | nil => rfl
  | cons element rest ih => rw [stripNullsOfElements, ih, List.map_cons]

@[simp] theorem stripNulls_array (elements : List Json) :
    stripNulls (.array elements) = .array (elements.map stripNulls) := by
  rw [stripNulls, stripNullsOfElements_eq_map]

@[simp] theorem stripNullMembers_cons_null (name : String) (rest : List (String × Json)) :
    stripNullMembers ((name, .null) :: rest) = stripNullMembers rest := rfl

theorem stripNullMembers_cons {value : Json} (h : value ≠ .null) (name : String)
    (rest : List (String × Json)) :
    stripNullMembers ((name, value) :: rest) =
      (name, value.stripNulls) :: stripNullMembers rest := by
  cases value with
  | null => exact absurd rfl h
  | _ => rfl

theorem mem_stripNullMembers {members : List (String × Json)} {member : String × Json} :
    member ∈ stripNullMembers members ↔
      ∃ m ∈ members, m.2 ≠ .null ∧ member = (m.1, m.2.stripNulls) := by
  induction members with
  | nil => simp [stripNullMembers]
  | cons m rest ih =>
      obtain ⟨name, value⟩ := m
      by_cases h : value = .null
      · subst h
        simp [ih]
      · simp [stripNullMembers_cons h, ih, h]

/-- Among members with distinct names, taking away the null ones takes away nothing but nulls. -/
theorem find?_stripNullMembers (name : String) {members : List (String × Json)}
    (hn : (members.map Prod.fst).Nodup) :
    find? name (stripNullMembers members) =
      (find? name members).bind fun value => if value = .null then none else some value.stripNulls := by
  induction members with
  | nil => rfl
  | cons m rest ih =>
      obtain ⟨key, value⟩ := m
      obtain ⟨hk, hr⟩ := List.nodup_cons.mp hn
      rw [find?_cons]
      by_cases h : value = .null
      · subst h
        rw [stripNullMembers_cons_null]
        split
        · rename_i he
          -- No other member has the name, so without the null there is none.
          have hnone : find? name rest = none := by
            rw [find?, Option.map_eq_none_iff, List.find?_eq_none]
            intro m hm e
            exact hk (he ▸ beq_iff_eq.mp e ▸ List.mem_map_of_mem hm)
          rw [ih hr, hnone]
          rfl
        · exact ih hr
      · rw [stripNullMembers_cons h, find?_cons]
        split
        · simp [h]
        · exact ih hr

/-- A decoder to which a null says nothing does not tell whether the nulls are there. -/
theorem bind_find?_stripNullMembers {α : Type} {decode : Json → Option α} (name : String)
    {members : List (String × Json)} (hn : (members.map Prod.fst).Nodup)
    (hnull : decode .null = none) :
    (find? name (stripNullMembers members)).bind decode =
      (find? name members).bind fun value => decode value.stripNulls := by
  rw [find?_stripNullMembers name hn]
  cases find? name members with
  | none => rfl
  | some value =>
      by_cases h : value = .null
      · subst h
        exact hnull.symm
      · simp [h]

end BracketQuery.Json
