import BracketQuery.Calendar

/-!
The instant at which a day begins is not a calendar date: it has a `T` in it, and no date does.
-/

namespace BracketQuery.Calendar

variable {text instant : String}

theorem hasForm_iff {chars : List Char} :
    hasForm chars = true ↔ ∃ year month day : List Char,
      chars = year ++ '-' :: (month ++ '-' :: day) ∧
        year.length = 4 ∧ month.length = 2 ∧ day.length = 2 ∧
          ∀ c ∈ year ++ month ++ day, Text.isDecimalDigit c = true := by
  constructor
  · intro h
    unfold hasForm at h
    split at h
    · exact ⟨[_, _, _, _], [_, _], [_, _], rfl, rfl, rfl, rfl, List.all_eq_true.mp h⟩
    · simp at h
  · rintro ⟨year, month, day, rfl, hy, hm, hd, h⟩
    match year, month, day, hy, hm, hd with
    | [_, _, _, _], [_, _], [_, _], _, _, _ => exact List.all_eq_true.mpr h

theorem hasForm_of_isDate (h : isDate text = true) : hasForm text.toList = true := by
  rw [isDate, Bool.and_eq_true] at h
  exact h.1

theorem length_of_isDate (h : isDate text = true) : text.length = 10 := by
  obtain ⟨year, month, day, ht, hy, hm, hd, _⟩ := hasForm_iff.mp (hasForm_of_isDate h)
  rw [← String.length_toList, ht]
  simp [hy, hm, hd]

/-- A date has no `T`, which would keep it from being expanded. -/
theorem not_mem_of_isDate (h : isDate text = true) : 'T' ∉ text.toList := by
  obtain ⟨year, month, day, ht, _, _, _, hd⟩ := hasForm_iff.mp (hasForm_of_isDate h)
  intro hm
  have hT : Text.isDecimalDigit 'T' = true := by
    apply hd
    simpa [ht] using hm
  exact absurd hT (by decide)

theorem expand?_eq_some_iff :
    expand? text = some instant ↔ isDate text = true ∧ text ++ midnight = instant := by
  unfold expand?
  constructor
  · intro h
    split at h
    · simp at h
    · rename_i hn
      exact ⟨by simpa using fun he => hn (.inr he), Option.some.inj h⟩
  · rintro ⟨hd, rfl⟩
    have hn : ¬('T' ∈ text.toList ∨ isDate text = false) := by simp [hd, not_mem_of_isDate hd]
    rw [if_neg hn]

theorem expand?_eq_none_iff : expand? text = none ↔ isDate text = false := by
  cases h : isDate text with
  | false => simp [expand?, h]
  | true =>
    have he : expand? text = some (text ++ midnight) := expand?_eq_some_iff.mpr ⟨h, rfl⟩
    simp [he]

theorem length_of_expand? (h : expand? text = some instant) :
    instant.length = text.length + 14 := by
  obtain ⟨_, rfl⟩ := expand?_eq_some_iff.mp h
  rw [String.length_append]
  rfl

theorem isDate_of_expand? (h : expand? text = some instant) : isDate instant = false := by
  have hl := length_of_expand? h
  apply Bool.eq_false_iff.mpr
  intro hd
  have hi := length_of_isDate hd
  omega

end BracketQuery.Calendar
