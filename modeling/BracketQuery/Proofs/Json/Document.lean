import BracketQuery.Json.Basic

/-!
Documents that a text can hold: the names of an object are distinct, an integer fits 64 bits with or
without a sign, and a double is finite. Members collected by `ofMembers` have distinct names, and
members whose names are distinct are collected as they are.
-/

namespace BracketQuery.Json

/-! ## Members -/

theorem map_fst_insert (name : String) (value : Json) (members : List (String × Json)) :
    (insert name value members).map Prod.fst =
      if name ∈ members.map Prod.fst then members.map Prod.fst
      else members.map Prod.fst ++ [name] := by
  induction members with
  | nil => rfl
  | cons member rest ih =>
      by_cases h : member.1 = name
      · simp [insert, h]
      · have hn : name ≠ member.1 := fun e => h e.symm
        simp only [insert, h, ↓reduceIte, List.map_cons, ih, List.mem_cons, hn, false_or]
        split <;> rfl

theorem nodup_insert {name : String} {value : Json} {members : List (String × Json)}
    (h : (members.map Prod.fst).Nodup) : ((insert name value members).map Prod.fst).Nodup := by
  rw [map_fst_insert]
  split
  · exact h
  · rename_i hn
    refine List.nodup_append.mpr ⟨h, by simp, fun a ha b hb e => hn ?_⟩
    exact List.mem_singleton.mp hb ▸ e ▸ ha

theorem mem_of_mem_insert {name : String} {value : Json} {members : List (String × Json)}
    {member : String × Json} (h : member ∈ insert name value members) :
    member = (name, value) ∨ member ∈ members := by
  induction members with
  | nil => exact .inl (List.mem_singleton.mp h)
  | cons head rest ih =>
      unfold insert at h
      split at h
      · exact (List.mem_cons.mp h).imp_right (List.mem_cons_of_mem head)
      · rcases List.mem_cons.mp h with rfl | hr
        · exact .inr List.mem_cons_self
        · exact (ih hr).imp_right (List.mem_cons_of_mem head)

theorem insert_of_notMem {name : String} {value : Json} {members : List (String × Json)}
    (h : name ∉ members.map Prod.fst) : insert name value members = members ++ [(name, value)] := by
  induction members with
  | nil => rfl
  | cons head rest ih =>
      have hne : head.1 ≠ name := fun e => h (e ▸ List.mem_cons_self)
      have hr : name ∉ rest.map Prod.fst := fun hm => h (List.mem_cons_of_mem _ hm)
      simp only [insert, hne, ↓reduceIte, ih hr, List.cons_append]

theorem nodup_foldl_insert (members : List (String × Json)) :
    ∀ {object : List (String × Json)}, (object.map Prod.fst).Nodup →
      ((members.foldl (fun object m => insert m.1 m.2 object) object).map Prod.fst).Nodup := by
  induction members with
  | nil => exact fun h => h
  | cons member rest ih => exact fun h => ih (nodup_insert h)

theorem nodup_ofMembers (members : List (String × Json)) :
    ((ofMembers members).map Prod.fst).Nodup :=
  nodup_foldl_insert members List.nodup_nil

theorem mem_of_mem_foldl_insert {member : String × Json} (members : List (String × Json)) :
    ∀ {object : List (String × Json)},
      member ∈ members.foldl (fun object m => insert m.1 m.2 object) object →
        member ∈ object ∨ member ∈ members := by
  induction members with
  | nil => exact fun h => .inl h
  | cons head rest ih =>
      intro object h
      rcases ih h with ho | hr
      · rcases mem_of_mem_insert ho with rfl | hm
        · exact .inr List.mem_cons_self
        · exact .inl hm
      · exact .inr (List.mem_cons_of_mem head hr)

theorem mem_of_mem_ofMembers {member : String × Json} {members : List (String × Json)}
    (h : member ∈ ofMembers members) : member ∈ members :=
  (mem_of_mem_foldl_insert members h).resolve_left List.not_mem_nil

theorem foldl_insert_of_nodup (members : List (String × Json)) :
    ∀ {object : List (String × Json)}, ((object ++ members).map Prod.fst).Nodup →
      members.foldl (fun object m => insert m.1 m.2 object) object = object ++ members := by
  induction members with
  | nil => simp
  | cons member rest ih =>
      intro object h
      have hn : member.1 ∉ object.map Prod.fst := by
        simp only [List.map_append, List.map_cons, List.nodup_append] at h
        exact fun hm => h.2.2 _ hm _ List.mem_cons_self rfl
      have happ : object ++ member :: rest = (object ++ [member]) ++ rest := by simp
      rw [List.foldl_cons, insert_of_notMem hn, happ]
      exact ih (happ ▸ h)

/-- Members with distinct names are an object already. -/
theorem ofMembers_of_nodup {members : List (String × Json)} (h : (members.map Prod.fst).Nodup) :
    ofMembers members = members := by
  have hn : (([] ++ members).map Prod.fst).Nodup := h
  exact foldl_insert_of_nodup members hn

/-! ## Look-up -/

@[simp] theorem find?_nil (name : String) : find? name [] = none := rfl

theorem find?_cons (name : String) (member : String × Json) (rest : List (String × Json)) :
    find? name (member :: rest) = if member.1 = name then some member.2 else find? name rest := by
  by_cases h : member.1 = name <;> simp [find?, h]

theorem find?_append (name : String) (xs ys : List (String × Json)) :
    find? name (xs ++ ys) = (find? name xs).or (find? name ys) := by
  simp only [find?, List.find?_append]
  cases xs.find? fun member => member.1 == name <;> rfl

theorem mem_of_find? {name : String} {value : Json} {members : List (String × Json)}
    (h : find? name members = some value) : (name, value) ∈ members := by
  obtain ⟨member, hf, rfl⟩ := Option.map_eq_some_iff.mp h
  have hn : member.1 = name := by simpa using List.find?_some hf
  exact hn ▸ List.mem_of_find?_eq_some hf

/-! ## Readable documents -/

/-- A number that a text can hold. -/
def Number.IsReadable : Number → Prop
  | .integer value => -2 ^ 63 ≤ value ∧ value < 2 ^ 64
  | .float value => value.isFinite = true

mutual

/-- A document that a text can hold. -/
def IsReadable : Json → Prop
  | .null | .boolean _ | .string _ => True
  | .number value => value.IsReadable
  | .array elements => ElementsReadable elements
  | .object members => (members.map Prod.fst).Nodup ∧ MembersReadable members

/-- Elements that a text can hold. -/
def ElementsReadable : List Json → Prop
  | [] => True
  | element :: rest => element.IsReadable ∧ ElementsReadable rest

/-- Members whose values a text can hold. -/
def MembersReadable : List (String × Json) → Prop
  | [] => True
  | (_, value) :: rest => value.IsReadable ∧ MembersReadable rest

end

theorem elementsReadable_iff : (elements : List Json) →
    (ElementsReadable elements ↔ ∀ element ∈ elements, element.IsReadable)
  | [] => by simp [ElementsReadable]
  | _ :: rest => by simp [ElementsReadable, elementsReadable_iff rest]

theorem membersReadable_iff : (members : List (String × Json)) →
    (MembersReadable members ↔ ∀ member ∈ members, member.2.IsReadable)
  | [] => by simp [MembersReadable]
  | (_, _) :: rest => by simp [MembersReadable, membersReadable_iff rest]

@[simp] theorem isReadable_array {elements : List Json} :
    (Json.array elements).IsReadable ↔ ∀ element ∈ elements, element.IsReadable :=
  elementsReadable_iff elements

@[simp] theorem isReadable_object {members : List (String × Json)} :
    (Json.object members).IsReadable ↔
      (members.map Prod.fst).Nodup ∧ ∀ member ∈ members, member.2.IsReadable :=
  and_congr_right fun _ => membersReadable_iff members

theorem isReadable_of_find? {name : String} {value : Json} {members : List (String × Json)}
    (h : (Json.object members).IsReadable) (hf : find? name members = some value) :
    value.IsReadable :=
  (isReadable_object.mp h).2 _ (mem_of_find? hf)

/-- Collecting readable members gives a readable object. -/
theorem isReadable_ofMembers {members : List (String × Json)}
    (h : ∀ member ∈ members, member.2.IsReadable) : (Json.object (ofMembers members)).IsReadable :=
  isReadable_object.mpr ⟨nodup_ofMembers members, fun m hm => h m (mem_of_mem_ofMembers hm)⟩

theorem isReadable_strings (values : List String) : (strings values).IsReadable := by
  simp [strings, IsReadable]

end BracketQuery.Json
