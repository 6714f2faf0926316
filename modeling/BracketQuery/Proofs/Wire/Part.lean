import BracketQuery.Wire.Lowering

/-!
Parameters of which some may be missing. Where one is, the query string is shorter, so the query
string tells a part from the whole.
-/

namespace BracketQuery

theorem lowerIndexed_eq_nil_iff {category : Category} {path : KeyPath} {values : List String} :
    lowerIndexed category path values = [] ↔ values = [] := by
  simp [lowerIndexed]

/-- The first parameters are some of the second, in order, and all of them exactly under a
condition. -/
structure Params.PartOf (part whole : Params) (complete : Prop) : Prop where
  sublist : part.Sublist whole
  eq_iff : part = whole ↔ complete

namespace Params.PartOf

variable {part whole part' whole' : Params} {complete complete' : Prop}

theorem refl (params : Params) : PartOf params params True :=
  ⟨List.Sublist.refl params, by simp⟩

theorem nil (params : Params) : PartOf [] params (params = []) :=
  ⟨List.nil_sublist params, eq_comm⟩

theorem congr (h : PartOf part whole complete) (hc : complete ↔ complete') :
    PartOf part whole complete' :=
  ⟨h.sublist, h.eq_iff.trans hc⟩

theorem append (h : PartOf part whole complete) (h' : PartOf part' whole' complete') :
    PartOf (part ++ part') (whole ++ whole') (complete ∧ complete') := by
  refine ⟨h.sublist.append h'.sublist, ?_⟩
  rw [← h.eq_iff, ← h'.eq_iff]
  constructor
  · intro he
    have hl := h.sublist.length_le
    have hl' := h'.sublist.length_le
    have hlen := congrArg List.length he
    simp only [List.length_append] at hlen
    exact List.append_inj he (by omega)
  · rintro ⟨rfl, rfl⟩
    rfl

theorem map (f : Param → Param) (h : PartOf part whole complete) :
    PartOf (part.map f) (whole.map f) complete := by
  refine ⟨h.sublist.map f, ?_⟩
  rw [← h.eq_iff]
  refine ⟨fun he => h.sublist.eq_of_length ?_, fun he => he ▸ rfl⟩
  simpa using congrArg List.length he

end Params.PartOf

/-! ## Query strings -/

/-- How long a parameter is in a query string, with the separator after it. -/
def Param.width (p : Param) : Nat := (p.key ++ "=" ++ Percent.encode p.value).length + 1

theorem Param.two_le_width (p : Param) : 2 ≤ p.width := by
  simp only [Param.width, String.length_append, show "=".length = 1 from rfl]
  omega

namespace Params

theorem length_queryString (params : Params) :
    params.queryString.length = (params.map Param.width).sum - 1 := by
  unfold queryString
  induction params with
  | nil => rfl
  | cons p rest ih =>
      cases rest with
      | nil => simp [Param.width]
      | cons q rest =>
          have hq := q.two_le_width
          simp only [List.map_cons, String.intercalate_cons_cons, String.length_append,
            List.sum_cons] at ih ⊢
          rw [ih]
          simp only [Param.width, String.length_append, show "&".length = 1 from rfl] at hq ⊢
          omega

theorem eq_or_sum_width_le {part whole : Params} (h : part.Sublist whole) :
    part = whole ∨ (part.map Param.width).sum + 2 ≤ (whole.map Param.width).sum := by
  induction h with
  | slnil => exact .inl rfl
  | @cons part whole p hs ih =>
      have hp := p.two_le_width
      refine .inr ?_
      simp only [List.map_cons, List.sum_cons]
      rcases ih with rfl | ih <;> omega
  | @cons_cons part whole p hs ih =>
      simp only [List.map_cons, List.sum_cons]
      rcases ih with rfl | ih
      · exact .inl rfl
      · exact .inr (by omega)

theorem PartOf.queryString_eq_iff {part whole : Params} {complete : Prop}
    (h : PartOf part whole complete) : part.queryString = whole.queryString ↔ complete := by
  rw [← h.eq_iff]
  refine ⟨fun he => ?_, fun he => he ▸ rfl⟩
  have hl := congrArg String.length he
  rw [length_queryString, length_queryString] at hl
  rcases eq_or_sum_width_le h.sublist with hw | hw
  · exact hw
  · omega

end Params

end BracketQuery
