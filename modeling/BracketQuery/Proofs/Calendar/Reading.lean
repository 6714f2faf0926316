import BracketQuery.Proofs.Calendar
import BracketQuery.Proofs.Calendar.Gregorian
import BracketQuery.Proofs.Text.Digits
import Mathlib.Data.List.TakeWhile

/-!
The calendar dates are the texts of ten characters that write a day of the Gregorian calendar in ASCII
digits. The form leaves nothing for the lenient reader to be lenient about but the digits of other
scripts, and of those it reads none: what it leaves of them is neither a hyphen nor the end.
-/

namespace BracketQuery.Calendar

/-- A day as it is written: four ASCII digits for the year and two each for the month and the day. -/
structure DateDigits where
  year : List Char
  month : List Char
  day : List Char
  length_year : year.length = 4
  length_month : month.length = 2
  length_day : day.length = 2
  isDigit : ∀ c ∈ year ++ month ++ day, c.isDigit = true

namespace DateDigits

def chars (digits : DateDigits) : List Char :=
  digits.year ++ '-' :: (digits.month ++ '-' :: digits.day)

/-- The digits with hyphens between year, month and day. -/
def text (digits : DateDigits) : String := String.ofList digits.chars

def date (digits : DateDigits) : Date where
  year := Text.decimalNumber digits.year
  month := Text.decimalNumber digits.month
  day := Text.decimalNumber digits.day

end DateDigits

variable {digits rest left : List Char} {n : Nat}

/-! ## Parts of a date -/

theorem readDigits?_append_iff (hne : digits ≠ [])
    (hd : ∀ c ∈ digits, Text.isDecimalDigit c = true)
    (hl : ∀ c ∈ left.head?, Text.isDecimalDigit c = false) :
    readDigits? digits.length (digits ++ rest) = some (n, left) ↔
      (∀ c ∈ digits, c.isDigit = true) ∧ Text.decimalNumber digits = n ∧ rest = left := by
  have hread : (digits ++ rest).take digits.length = digits := List.take_left
  rw [readDigits?, hread]
  by_cases ha : ∀ c ∈ digits, c.isDigit = true
  · have hw : digits.takeWhile Char.isDigit = digits := List.takeWhile_eq_self_iff.mpr ha
    simp [hw, hne, and_iff_right ha]
  · -- The digit at which the reader stops is still there.
    have hdrop : (digits ++ rest).drop (digits.takeWhile Char.isDigit).length =
        digits.dropWhile Char.isDigit ++ rest := by
      have happ := List.takeWhile_append_dropWhile (p := Char.isDigit) (l := digits)
      calc (digits ++ rest).drop (digits.takeWhile Char.isDigit).length
          = (digits.takeWhile Char.isDigit ++ (digits.dropWhile Char.isDigit ++ rest)).drop
              (digits.takeWhile Char.isDigit).length := by rw [← List.append_assoc, happ]
        _ = digits.dropWhile Char.isDigit ++ rest := List.drop_left
    obtain ⟨c, behind, hc⟩ := List.exists_cons_of_ne_nil
      (mt List.dropWhile_eq_nil_iff.mp ha)
    have hmem : c ∈ digits :=
      (List.dropWhile_sublist Char.isDigit).subset (hc ▸ List.mem_cons_self)
    constructor
    · intro h
      split at h
      · simp at h
      · injection h with h
        injection h with _ hrest
        rw [hdrop, hc] at hrest
        have hn := hl c (by rw [← hrest]; rfl)
        rw [hd c hmem] at hn
        simp at hn
    · exact fun h => absurd h.1 ha

theorem dropWhile_isBlank_append (hne : digits ≠ [])
    (hd : ∀ c ∈ digits, Text.isDecimalDigit c = true) :
    (digits ++ rest).dropWhile Text.isBlank = digits ++ rest := by
  cases digits with
  | nil => exact absurd rfl hne
  | cons c digits =>
      have hb := Text.isBlank_of_isDecimalDigit (hd c List.mem_cons_self)
      exact List.dropWhile_cons_of_neg (by simp [hb])

theorem readPart?_append_iff (hlen : digits.length = 2)
    (hd : ∀ c ∈ digits, Text.isDecimalDigit c = true)
    (hl : ∀ c ∈ left.head?, Text.isDecimalDigit c = false) :
    readPart? (digits ++ rest) = some (n, left) ↔
      (∀ c ∈ digits, c.isDigit = true) ∧ Text.decimalNumber digits = n ∧ rest = left := by
  have hne : digits ≠ [] := List.ne_nil_of_length_pos (by omega)
  rw [readPart?, dropWhile_isBlank_append hne hd, ← hlen]
  exact readDigits?_append_iff hne hd hl

theorem readYear?_append_iff {year : Int} (hlen : digits.length = 4)
    (hd : ∀ c ∈ digits, Text.isDecimalDigit c = true)
    (hl : ∀ c ∈ left.head?, Text.isDecimalDigit c = false) :
    readYear? (digits ++ rest) = some (year, left) ↔
      (∀ c ∈ digits, c.isDigit = true) ∧ Text.decimalNumber digits = year ∧ rest = left := by
  have hne : digits ≠ [] := List.ne_nil_of_length_pos (by omega)
  have hunsigned : readYear? (digits ++ rest) =
      (readDigits? 4 (digits ++ rest)).map fun p => (↑p.1, p.2) := by
    rw [readYear?, dropWhile_isBlank_append hne hd]
    obtain ⟨c, digits, rfl⟩ := List.exists_cons_of_ne_nil hne
    have hc := hd c List.mem_cons_self
    -- A sign is no digit.
    split
    · rename_i h
      obtain ⟨rfl, _⟩ := List.cons_eq_cons.mp h
      exact absurd hc (by decide)
    · rename_i h
      obtain ⟨rfl, _⟩ := List.cons_eq_cons.mp h
      exact absurd hc (by decide)
    · rfl
  rw [hunsigned, ← hlen, Option.map_eq_some_iff]
  constructor
  · rintro ⟨⟨n, behind⟩, hread, h⟩
    obtain ⟨rfl, rfl⟩ := Prod.mk.inj h
    obtain ⟨ha, rfl, hr⟩ := (readDigits?_append_iff hne hd hl).mp hread
    exact ⟨ha, rfl, hr⟩
  · rintro ⟨ha, rfl, hr⟩
    exact ⟨_, (readDigits?_append_iff hne hd hl).mpr ⟨ha, rfl, hr⟩, rfl⟩

theorem readHyphen?_eq_some_iff : readHyphen? rest = some left ↔ rest = '-' :: left := by
  unfold readHyphen?
  split
  · simp
  · rename_i hn
    simp
    exact fun h => hn left h

theorem parse?_eq_some_iff {text : List Char} {date : Date} :
    parse? text = some date ↔ ∃ year behindYear month behindMonth day,
      readYear? text = some (year, '-' :: behindYear) ∧
      readPart? behindYear = some (month, '-' :: behindMonth) ∧
      readPart? behindMonth = some (day, []) ∧ ⟨year, month, day⟩ = date ∧ date.isValid = true := by
  simp only [parse?, Option.bind_eq_bind, Option.bind_eq_some_iff, readHyphen?_eq_some_iff,
    Prod.exists]
  constructor
  · rintro ⟨year, _, hyear, behindYear, rfl, month, _, hmonth, behindMonth, rfl, day, rest, hday, h⟩
    split at h
    · rename_i hv
      rw [Bool.and_eq_true, List.isEmpty_iff] at hv
      obtain ⟨rfl, hv⟩ := hv
      obtain rfl := Option.some.inj h
      exact ⟨year, behindYear, month, behindMonth, day, hyear, hmonth, hday, rfl, hv⟩
    · simp at h
  · rintro ⟨year, behindYear, month, behindMonth, day, hyear, hmonth, hday, rfl, hv⟩
    refine ⟨year, _, hyear, behindYear, rfl, month, _, hmonth, behindMonth, rfl, day, [], hday, ?_⟩
    simp [hv]

theorem not_isDecimalDigit_head_hyphen (rest : List Char) :
    ∀ c ∈ ('-' :: rest).head?, Text.isDecimalDigit c = false := by
  intro c hc
  obtain rfl := Option.some.inj hc
  decide

/-! ## Dates -/

/-- Decimal digits in the form of a date are read only if they are ASCII digits. -/
theorem parse?_form_iff {year month day : List Char} {date : Date} (hly : year.length = 4)
    (hlm : month.length = 2) (hld : day.length = 2)
    (h : ∀ c ∈ year ++ month ++ day, Text.isDecimalDigit c = true) :
    parse? (year ++ '-' :: (month ++ '-' :: day)) = some date ↔
      (∀ c ∈ year ++ month ++ day, c.isDigit = true) ∧
        ⟨Text.decimalNumber year, Text.decimalNumber month, Text.decimalNumber day⟩ = date ∧
        date.isValid = true := by
  have hhyphen := not_isDecimalDigit_head_hyphen
  have hend : ∀ c ∈ ([] : List Char).head?, Text.isDecimalDigit c = false := by simp
  simp only [List.forall_mem_append] at h ⊢
  obtain ⟨⟨hy, hm⟩, hd⟩ := h
  have hlast (n : Nat) : readPart? (day ++ []) = some (n, []) ↔
      (∀ c ∈ day, c.isDigit = true) ∧ Text.decimalNumber day = n ∧ ([] : List Char) = [] :=
    readPart?_append_iff hld hd hend
  rw [List.append_nil] at hlast
  rw [parse?_eq_some_iff]
  constructor
  · rintro ⟨_, behindYear, _, behindMonth, _, hyear, hmonth, hday, hdate, hv⟩
    obtain ⟨hay, rfl, hry⟩ := (readYear?_append_iff hly hy (hhyphen _)).mp hyear
    obtain rfl := (List.cons_eq_cons.mp hry).2
    obtain ⟨ham, rfl, hrm⟩ := (readPart?_append_iff hlm hm (hhyphen _)).mp hmonth
    obtain rfl := (List.cons_eq_cons.mp hrm).2
    obtain ⟨had, rfl, -⟩ := (hlast _).mp hday
    exact ⟨⟨⟨hay, ham⟩, had⟩, hdate, hv⟩
  · rintro ⟨⟨⟨hay, ham⟩, had⟩, hdate, hv⟩
    refine ⟨_, _, _, _, _, (readYear?_append_iff hly hy (hhyphen _)).mpr ⟨hay, rfl, rfl⟩,
      (readPart?_append_iff hlm hm (hhyphen _)).mpr ⟨ham, rfl, rfl⟩,
      (hlast _).mpr ⟨had, rfl, rfl⟩, hdate, hv⟩

namespace DateDigits

theorem isDecimalDigit (digits : DateDigits) :
    ∀ c ∈ digits.year ++ digits.month ++ digits.day, Text.isDecimalDigit c = true :=
  fun c hc => Text.isDecimalDigit_of_isDigit (digits.isDigit c hc)

theorem toList_text (digits : DateDigits) : digits.text.toList = digits.chars :=
  String.toList_ofList

theorem year_le (digits : DateDigits) : digits.date.year ≤ 9999 := by
  have h := digits.isDigit
  simp only [List.forall_mem_append] at h
  have hlt := Text.decimalNumber_lt h.1.1
  rw [digits.length_year] at hlt
  change (Text.decimalNumber digits.year : Int) ≤ 9999
  omega

/-- The calendar reaches all years of four digits. -/
theorem isValid_iff (digits : DateDigits) : digits.date.isValid = true ↔ digits.date.Exists := by
  have hle := digits.year_le
  have hnn : 0 ≤ digits.date.year := Int.natCast_nonneg _
  rw [Date.isValid_iff, firstYear, lastYear]
  constructor
  · exact fun h => h.2.2
  · exact fun he => ⟨by omega, by omega, he⟩

theorem hasForm_chars (digits : DateDigits) : hasForm digits.chars = true :=
  hasForm_iff.mpr ⟨_, _, _, rfl, digits.length_year, digits.length_month, digits.length_day,
    digits.isDecimalDigit⟩

theorem parse?_chars_iff (digits : DateDigits) {date : Date} :
    parse? digits.chars = some date ↔ digits.date = date ∧ date.isValid = true := by
  have hiff : parse? digits.chars = some date ↔ _ := parse?_form_iff digits.length_year
    digits.length_month digits.length_day digits.isDecimalDigit
  exact hiff.trans (and_iff_right digits.isDigit)

theorem isDate_text_iff (digits : DateDigits) :
    isDate digits.text = true ↔ digits.date.Exists := by
  rw [isDate, toList_text, hasForm_chars, Bool.true_and, Option.isSome_iff_exists, ← isValid_iff]
  constructor
  · rintro ⟨date, h⟩
    obtain ⟨rfl, hv⟩ := digits.parse?_chars_iff.mp h
    exact hv
  · exact fun hv => ⟨digits.date, digits.parse?_chars_iff.mpr ⟨rfl, hv⟩⟩

theorem isDigit_or_eq_hyphen (digits : DateDigits) {c : Char} (h : c ∈ digits.text.toList) :
    c.isDigit = true ∨ c = '-' := by
  have hd := digits.isDigit c
  simp only [toList_text, chars, List.mem_append, List.mem_cons] at h hd
  tauto

theorem head_text (digits : DateDigits) : ∃ c ∈ digits.text.toList.head?, c.isDigit = true := by
  have hne : digits.year ≠ [] := List.ne_nil_of_length_pos (by simp [digits.length_year])
  obtain ⟨c, year, hc⟩ := List.exists_cons_of_ne_nil hne
  refine ⟨c, ?_, digits.isDigit c ?_⟩
  · simp [toList_text, chars, hc]
  · simp [hc]

end DateDigits

theorem isDate_iff {text : String} :
    isDate text = true ↔ ∃ digits : DateDigits, digits.date.Exists ∧ digits.text = text := by
  constructor
  · intro h
    obtain ⟨hform, hparse⟩ := Bool.and_eq_true_iff.mp h
    obtain ⟨date, hparse⟩ := Option.isSome_iff_exists.mp hparse
    obtain ⟨year, month, day, ht, hly, hlm, hld, hd⟩ := hasForm_iff.mp hform
    rw [ht, parse?_form_iff hly hlm hld hd] at hparse
    let digits : DateDigits := ⟨year, month, day, hly, hlm, hld, hparse.1⟩
    have htext : digits.text = text :=
      String.toList_injective (digits.toList_text.trans ht.symm)
    exact ⟨digits, digits.isDate_text_iff.mp (htext ▸ h), htext⟩
  · rintro ⟨digits, he, rfl⟩
    exact digits.isDate_text_iff.mpr he

theorem expand?_eq_some_iff_exists {text instant : String} :
    expand? text = some instant ↔
      ∃ digits : DateDigits, digits.date.Exists ∧ digits.text = text ∧ text ++ midnight = instant := by
  rw [expand?_eq_some_iff, isDate_iff]
  constructor
  · rintro ⟨⟨digits, he, ht⟩, hi⟩
    exact ⟨digits, he, ht, hi⟩
  · rintro ⟨digits, he, ht, hi⟩
    exact ⟨⟨digits, he, ht⟩, hi⟩

theorem expand?_eq_none_of_mem {text : String} {c : Char} (h : c ∈ text.toList)
    (hd : c.isDigit = false) (hc : c ≠ '-') : expand? text = none := by
  apply Option.eq_none_iff_forall_ne_some.mpr
  intro instant hi
  obtain ⟨digits, _, rfl, _⟩ := expand?_eq_some_iff_exists.mp hi
  rcases digits.isDigit_or_eq_hyphen h with h | h
  · rw [hd] at h
    exact Bool.false_ne_true h
  · exact hc h

theorem expand?_signed (text : String) : expand? ("-" ++ text) = none := by
  apply Option.eq_none_iff_forall_ne_some.mpr
  intro instant hi
  obtain ⟨digits, _, ht, _⟩ := expand?_eq_some_iff_exists.mp hi
  obtain ⟨c, hc, hd⟩ := digits.head_text
  rw [ht, String.toList_append] at hc
  obtain rfl := Option.some.inj hc
  exact absurd hd (by decide)

end BracketQuery.Calendar
