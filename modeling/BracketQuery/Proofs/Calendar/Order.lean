import BracketQuery.Proofs.Calendar.Reading

/-!
The order of days. The text of a date begins with what counts most, so that dates are in the order of
their texts, and so are the instants at which the days begin.
-/

namespace BracketQuery.Calendar

/-! ## Texts of days -/

namespace DateDigits

variable {digits others : DateDigits}

theorem length_chars (digits : DateDigits) : digits.chars.length = 10 := by
  simp [chars, digits.length_year, digits.length_month, digits.length_day]

theorem chars_lt_iff :
    digits.chars < others.chars ↔
      digits.date.year < others.date.year ∨ digits.date.year = others.date.year ∧
        (digits.date.month < others.date.month ∨ digits.date.month = others.date.month ∧
          digits.date.day < others.date.day) := by
  have hd := digits.isDigit
  have ho := others.isDigit
  simp only [List.forall_mem_append] at hd ho
  have hly := digits.length_year.trans others.length_year.symm
  have hlm := digits.length_month.trans others.length_month.symm
  have hld := digits.length_day.trans others.length_day.symm
  rw [chars, chars, Text.append_lt_append_iff hly, List.cons_lt_cons_iff,
    Text.append_lt_append_iff hlm, List.cons_lt_cons_iff]
  simp only [lt_irrefl, false_or, true_and]
  rw [Text.lt_iff_decimalNumber_lt hly hd.1.1 ho.1.1, Text.eq_iff_decimalNumber_eq hly hd.1.1 ho.1.1,
    Text.lt_iff_decimalNumber_lt hlm hd.1.2 ho.1.2, Text.eq_iff_decimalNumber_eq hlm hd.1.2 ho.1.2,
    Text.lt_iff_decimalNumber_lt hld hd.2 ho.2]
  simp only [date, Nat.cast_lt, Nat.cast_inj]

/-- What follows a date does not count. -/
theorem text_append_lt_iff (ending : String) (hd : digits.date.Exists) (ho : others.date.Exists) :
    digits.text ++ ending < others.text ++ ending ↔
      digits.date.dayNumber < others.date.dayNumber := by
  have hl := digits.length_chars.trans others.length_chars.symm
  rw [Date.dayNumber_lt_iff hd ho (Int.natCast_nonneg _) (Int.natCast_nonneg _), ← chars_lt_iff,
    String.lt_iff, String.toList_append, String.toList_append, toList_text, toList_text,
    Text.append_lt_append_iff hl]
  simp

end DateDigits

/-- What is expanded are the days of the Gregorian calendar, written with four, two and two ASCII
digits. Digits of other scripts, signs and white space are not accepted, nor is an instant, and the
instants of two days are in the order of the days. -/
theorem expand?_spec :
    (∀ text instant, expand? text = some instant ↔
      ∃ digits : DateDigits, digits.date.Exists ∧ digits.text = text ∧
        text ++ "T00:00:00.000Z" = instant) ∧
    (∀ text, ∀ c ∈ text.toList, c.isDigit = false → c ≠ '-' → expand? text = none) ∧
    (∀ text, expand? ("-" ++ text) = none) ∧
    (∀ text instant, expand? text = some instant → expand? instant = none) ∧
    ∀ (digits others : DateDigits) (instant later : String),
      expand? digits.text = some instant → expand? others.text = some later →
        (instant < later ↔ digits.date.dayNumber < others.date.dayNumber) := by
  refine ⟨fun text instant => expand?_eq_some_iff_exists, fun text c => expand?_eq_none_of_mem,
    expand?_signed, fun text instant h => ?_, fun digits others instant later hi hl => ?_⟩
  · exact expand?_eq_none_iff.mpr (isDate_of_expand? h)
  · obtain ⟨hd, rfl⟩ := expand?_eq_some_iff.mp hi
    obtain ⟨ho, rfl⟩ := expand?_eq_some_iff.mp hl
    exact DateDigits.text_append_lt_iff midnight (digits.isDate_text_iff.mp hd)
      (others.isDate_text_iff.mp ho)

/-- The last day of a February in a leap year comes before the first day of March, and the year before
has no such day. -/
theorem leap_day_before_march :
    expand? "2024-02-29" = some "2024-02-29T00:00:00.000Z" ∧ expand? "2023-02-29" = none ∧
      expand? "2024-02-29T00:00:00.000Z" = none ∧ expand? ("-" ++ "2024-02-29") = none ∧
      expand? "2024-02-2\u0669" = none ∧ "2024-02-29T00:00:00.000Z" < "2024-03-01T00:00:00.000Z" := by
  obtain ⟨hsome, hother, hsigned, hnone, horder⟩ := expand?_spec
  let leap : DateDigits := ⟨['2', '0', '2', '4'], ['0', '2'], ['2', '9'], rfl, rfl, rfl,
    List.all_eq_true.mp (by decide)⟩
  let march : DateDigits := ⟨['2', '0', '2', '4'], ['0', '3'], ['0', '1'], rfl, rfl, rfl,
    List.all_eq_true.mp (by decide)⟩
  let common : DateDigits := ⟨['2', '0', '2', '3'], ['0', '2'], ['2', '9'], rfl, rfl, rfl,
    List.all_eq_true.mp (by decide)⟩
  have hleap : leap.date.Exists := ⟨by decide, by decide, by decide, by decide⟩
  have hmarch : march.date.Exists := ⟨by decide, by decide, by decide, by decide⟩
  have hl : expand? "2024-02-29" = some "2024-02-29T00:00:00.000Z" :=
    (hsome _ _).mpr ⟨leap, hleap, by decide, by decide⟩
  have hm : expand? "2024-03-01" = some "2024-03-01T00:00:00.000Z" :=
    (hsome _ _).mpr ⟨march, hmarch, by decide, by decide⟩
  have hc : expand? "2023-02-29" = none := by
    have hnot : ¬ common.date.Exists := fun he => absurd he.day_le (by decide)
    exact expand?_eq_none_iff.mpr (Bool.eq_false_iff.mpr (mt common.isDate_text_iff.mp hnot))
  have hlt : leap.date.dayNumber < march.date.dayNumber :=
    (Date.dayNumber_lt_iff hleap hmarch (by decide) (by decide)).mpr (by decide)
  exact ⟨hl, hc, hnone _ _ hl, hsigned _, hother _ '\u0669' (by decide) (by decide) (by decide),
    (horder leap march _ _ hl hm).mpr hlt⟩

end BracketQuery.Calendar
