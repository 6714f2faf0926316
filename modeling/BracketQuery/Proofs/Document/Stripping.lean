import BracketQuery.Proofs.Document.Places
import BracketQuery.Proofs.Json.Nulls

/-!
Decoders that do not see whether null members are there: single values, texts, numbers, pagination,
and whether an inclusion, a filter tree or a shape is empty.
-/

namespace BracketQuery.Json

/-! ## Single values and texts -/

theorem scalarOfJson?_stripNulls (value : Json) :
    Scalar.ofJson? value.stripNulls = Scalar.ofJson? value := by
  cases value with
  | array elements => rw [stripNulls_array]; rfl
  | _ => rfl

theorem textOfJson?_stripNulls (value : Json) : textOfJson? value.stripNulls = textOfJson? value := by
  cases value <;> rfl

theorem textsOfJson_stripNulls (value : Json) : textsOfJson value.stripNulls = textsOfJson value := by
  cases value with
  | array elements =>
      have h : textOfJson? ∘ stripNulls = textOfJson? := funext textOfJson?_stripNulls
      rw [stripNulls_array, textsOfJson, List.filterMap_map, h, textsOfJson]
  | _ => rfl

theorem textsOfMember_stripNullMembers {members : List (String × Json)}
    (hd : (members.map Prod.fst).Nodup) (name : String) :
    textsOfMember (stripNullMembers members) name = textsOfMember members name := by
  rw [textsOfMember, textsOfMember, find?_stripNullMembers name hd]
  cases find? name members with
  | none => rfl
  | some value =>
      by_cases h : value = .null
      · subst h
        rfl
      · simp [h, textsOfJson_stripNulls]

theorem textOfMember?_stripNullMembers {members : List (String × Json)}
    (hd : (members.map Prod.fst).Nodup) (name : String) :
    textOfMember? (stripNullMembers members) name = textOfMember? members name := by
  rw [textOfMember?, bind_find?_stripNullMembers name hd rfl, textOfMember?]
  exact congrArg _ (funext textOfJson?_stripNulls)

theorem integerOfJson?_stripNulls (value : Json) :
    integerOfJson? value.stripNulls = integerOfJson? value := by
  cases value <;> rfl

theorem paginationOfJson?_stripNulls {value : Json} (h : value.IsReadable) :
    Pagination.ofJson? value.stripNulls = Pagination.ofJson? value := by
  cases value with
  | object members =>
      have hm : ∀ name, (find? name (stripNullMembers members)).bind integerOfJson? =
          (find? name members).bind integerOfJson? := by
        intro name
        rw [bind_find?_stripNullMembers name h.1 rfl]
        exact congrArg _ (funext integerOfJson?_stripNulls)
      simp only [stripNulls_object, Pagination.ofJson?, hm]
  | _ => rfl

/-! ## Shapes -/

theorem isNone_bind_stripNullMembers {α : Type} (decode : Json → Option α) (name : String)
    {members : List (String × Json)} (hd : (members.map Prod.fst).Nodup)
    (hnull : decode .null = none)
    (h : ∀ value, (decode value.stripNulls).isNone = (decode value).isNone) :
    ((find? name (stripNullMembers members)).bind decode).isNone =
      ((find? name members).bind decode).isNone := by
  rw [bind_find?_stripNullMembers name hd hnull]
  cases find? name members with
  | none => rfl
  | some value => exact h value

theorem isNone_inclusion_stripNulls (value : Json) :
    (Populate.ofJson? value.stripNulls).value.isNone = (Populate.ofJson? value).value.isNone := by
  cases value <;> rfl

theorem isNone_filters_stripNulls (value : Json) :
    (FilterNode.ofJson? value.stripNulls).value.isNone = (FilterNode.ofJson? value).value.isNone := by
  cases value <;> rfl

theorem isEmpty_shape_stripNullMembers {members : List (String × Json)}
    (hd : (members.map Prod.fst).Nodup) :
    (PopulateShape.ofMembers (stripNullMembers members)).isEmpty =
      (PopulateShape.ofMembers members).isEmpty := by
  have hp := isNone_bind_stripNullMembers (fun value => (Populate.ofJson? value).value) "populate"
    hd rfl isNone_inclusion_stripNulls
  have hf := isNone_bind_stripNullMembers (fun value => (FilterNode.ofJson? value).value) "filters"
    hd rfl isNone_filters_stripNulls
  simp only [PopulateShape.isEmpty, PopulateShape.ofMembers, PopulateShape.fields,
    PopulateShape.populate, PopulateShape.sort, PopulateShape.filters,
    textsOfMember_stripNullMembers hd, hp, hf]

/-! ## Plain names -/

mutual

theorem hasPlainNames_stripNulls : (value : Json) → value.HasPlainNames →
    value.stripNulls.HasPlainNames
  | .object members, h => plainMembers_stripNullMembers members h
  | .array elements, h => plainElements_stripNulls elements h
  | .null, _ | .boolean _, _ | .number _, _ | .string _, _ => trivial

theorem plainElements_stripNulls : (elements : List Json) → PlainElements elements →
    PlainElements (stripNullsOfElements elements)
  | [], _ => trivial
  | element :: rest, ⟨he, hr⟩ =>
      ⟨hasPlainNames_stripNulls element he, plainElements_stripNulls rest hr⟩

theorem plainMembers_stripNullMembers : (members : List (String × Json)) → PlainMembers members →
    PlainMembers (stripNullMembers members)
  | [], _ => trivial
  | (name, value) :: rest, ⟨⟨hn, hv⟩, hr⟩ => by
      by_cases h : value = .null
      · subst h
        exact plainMembers_stripNullMembers rest hr
      · rw [stripNullMembers_cons h]
        exact ⟨⟨hn, hasPlainNames_stripNulls value hv⟩, plainMembers_stripNullMembers rest hr⟩

end

end BracketQuery.Json
