import BracketQuery.Calendar
import Mathlib.Algebra.Order.BigOperators.Group.Finset
import Mathlib.Algebra.BigOperators.Intervals

/-!
The Gregorian calendar by its own rules: the lengths of the months, the leap years and the order of the
days. The days that a reader accepts are those of this calendar, in the years that it reaches.
-/

namespace BracketQuery.Calendar

/-! ## Years and months -/

/-- Every fourth year is a leap year, but of the centuries only every fourth. -/
def IsLeapYear (year : Int) : Prop := 4 ∣ year ∧ (100 ∣ year → 400 ∣ year)

instance (year : Int) : Decidable (IsLeapYear year) :=
  inferInstanceAs (Decidable (4 ∣ year ∧ (100 ∣ year → 400 ∣ year)))

/-- The lengths of the months in a common year, from January on. -/
def monthLengths : List Nat := [31, 28, 31, 30, 31, 30, 31, 31, 30, 31, 30, 31]

/-- The length of a month, counted from one; a month that there is not has no days. -/
def monthLength (year : Int) (month : Nat) : Nat :=
  if month = 2 ∧ IsLeapYear year then 29 else (0 :: monthLengths).getD month 0

theorem month_bounds {year : Int} {month : Nat} (h : 0 < monthLength year month) :
    1 ≤ month ∧ month ≤ 12 := by
  by_contra hm
  have hout : month = 0 ∨ 13 ≤ month := by omega
  rcases hout with rfl | hge
  · simp [monthLength] at h
  · have hne : month ≠ 2 := by omega
    have hlen : (0 :: monthLengths).length ≤ month := hge
    simp [monthLength, hne, List.getElem?_eq_none hlen] at h

def yearLength (year : Int) : Nat := if IsLeapYear year then 366 else 365

theorem sum_monthLength (year : Int) :
    ∑ month ∈ Finset.range 13, monthLength year month = yearLength year := by
  simp only [Finset.sum_range_succ, Finset.sum_range_zero, yearLength]
  by_cases h : IsLeapYear year
  · simp [monthLength, monthLengths, h]
  · simp [monthLength, monthLengths, h]

/-! ## Consecutive stretches -/

/-- Of two places in consecutive stretches the one in the earlier stretch comes first. -/
theorem sum_range_add_lt_iff (length : Nat → Nat) {i j a b : Nat} (ha : 1 ≤ a)
    (ha' : a ≤ length i) (hb : 1 ≤ b) (hb' : b ≤ length j) :
    ∑ k ∈ Finset.range i, length k + a < ∑ k ∈ Finset.range j, length k + b ↔
      i < j ∨ i = j ∧ a < b := by
  have hmono {m n : Nat} (h : m < n) :
      ∑ k ∈ Finset.range m, length k + length m ≤ ∑ k ∈ Finset.range n, length k := by
    rw [← Finset.sum_range_succ]
    exact Finset.sum_le_sum_of_subset (Finset.range_subset_range.mpr h)
  rcases Nat.lt_trichotomy i j with h | rfl | h
  · have hle := hmono h
    omega
  · omega
  · have hle := hmono h
    omega

/-! ## Days -/

namespace Date

/-- The calendar has the day, in a year of any number. -/
structure Exists (date : Date) : Prop where
  month_pos : 1 ≤ date.month
  month_le : date.month ≤ 12
  day_pos : 1 ≤ date.day
  day_le : date.day ≤ monthLength date.year date.month

/-- The number of a day in its year, counted from one. -/
def dayOfYear (date : Date) : Nat :=
  ∑ month ∈ Finset.range date.month, monthLength date.year month + date.day

/-- The number of a day, counted from one at the beginning of the year zero. -/
def dayNumber (date : Date) : Nat :=
  ∑ year ∈ Finset.range date.year.toNat, yearLength year + date.dayOfYear

/-- The day after. -/
def next (date : Date) : Date :=
  if date.day < monthLength date.year date.month then { date with day := date.day + 1 }
  else if date.month < 12 then { date with month := date.month + 1, day := 1 }
  else { year := date.year + 1, month := 1, day := 1 }

variable {date other : Date}

/-- The numbers count the days one by one. -/
theorem dayNumber_next (h : date.Exists) (hy : 0 ≤ date.year) :
    date.next.dayNumber = date.dayNumber + 1 := by
  have hday := h.day_le
  unfold next
  split
  · rfl
  · have hlast : date.day = monthLength date.year date.month := by omega
    split
    · simp only [dayNumber, dayOfYear, Finset.sum_range_succ, hlast]
      omega
    · have hm : date.month = 12 := by
        have := h.month_le
        omega
      have hyear : (date.year + 1).toNat = date.year.toNat + 1 := by omega
      have hall : ∑ month ∈ Finset.range 12, monthLength date.year month +
          monthLength date.year 12 = yearLength date.year := by
        rw [← sum_monthLength, Finset.sum_range_succ _ 12]
      rw [dayNumber, dayOfYear, dayNumber, dayOfYear, hyear, Finset.sum_range_succ, hlast, hm,
        hall, Int.toNat_of_nonneg hy, Finset.sum_range_one]
      rfl

theorem Exists.dayOfYear_pos (h : date.Exists) : 1 ≤ date.dayOfYear :=
  Nat.le_add_left_of_le h.day_pos

theorem Exists.dayOfYear_le (h : date.Exists) : date.dayOfYear ≤ yearLength date.year := by
  have hm : date.month + 1 ≤ 13 := by
    have := h.month_le
    omega
  calc date.dayOfYear
      ≤ ∑ month ∈ Finset.range date.month, monthLength date.year month +
          monthLength date.year date.month := Nat.add_le_add_left h.day_le _
    _ = ∑ month ∈ Finset.range (date.month + 1), monthLength date.year month :=
        (Finset.sum_range_succ _ _).symm
    _ ≤ ∑ month ∈ Finset.range 13, monthLength date.year month :=
        Finset.sum_le_sum_of_subset (Finset.range_subset_range.mpr hm)
    _ = yearLength date.year := sum_monthLength date.year

theorem dayOfYear_lt_iff (hd : date.Exists) (ho : other.Exists) (hy : date.year = other.year) :
    date.dayOfYear < other.dayOfYear ↔
      date.month < other.month ∨ date.month = other.month ∧ date.day < other.day := by
  have hle := hd.day_le
  rw [hy] at hle
  rw [dayOfYear, dayOfYear, hy]
  exact sum_range_add_lt_iff _ hd.day_pos hle ho.day_pos ho.day_le

/-- Days are in the order of their years, in a year in the order of their months, and in a month in
the order of their days. -/
theorem dayNumber_lt_iff (hd : date.Exists) (ho : other.Exists) (hdy : 0 ≤ date.year)
    (hoy : 0 ≤ other.year) :
    date.dayNumber < other.dayNumber ↔ date.year < other.year ∨ date.year = other.year ∧
      (date.month < other.month ∨ date.month = other.month ∧ date.day < other.day) := by
  have hdl := hd.dayOfYear_le
  have hol := ho.dayOfYear_le
  rw [← Int.toNat_of_nonneg hdy] at hdl
  rw [← Int.toNat_of_nonneg hoy] at hol
  have hlt : date.year.toNat < other.year.toNat ↔ date.year < other.year := by omega
  have heq : date.year.toNat = other.year.toNat ↔ date.year = other.year := by omega
  have hiff := sum_range_add_lt_iff (fun year => yearLength year) hd.dayOfYear_pos hdl
    ho.dayOfYear_pos hol
  rw [hlt, heq] at hiff
  exact hiff.trans (or_congr_right (and_congr_right fun hy => dayOfYear_lt_iff hd ho hy))

end Date

/-! ## What is checked of a day -/

theorem isLeapYear_iff {year : Int} : isLeapYear year = true ↔ IsLeapYear year := by
  simp only [isLeapYear, IsLeapYear, Bool.and_eq_true, Bool.or_eq_true, beq_iff_eq, bne_iff_ne]
  omega

theorem daysInMonth_eq (year : Int) (month : Nat) :
    daysInMonth year month = monthLength year month := by
  match month with
  | 2 =>
      have h := @isLeapYear_iff year
      by_cases hl : IsLeapYear year
      · simp [daysInMonth, monthLength, hl, h.mpr hl]
      · simp [daysInMonth, monthLength, monthLengths, hl, h]
  | 0 | 1 | 3 | 4 | 5 | 6 | 7 | 8 | 9 | 10 | 11 | 12 => rfl
  | month + 13 => simp [daysInMonth, monthLength, monthLengths]

theorem Date.isValid_iff {date : Date} :
    date.isValid = true ↔ firstYear ≤ date.year ∧ date.year ≤ lastYear ∧ date.Exists := by
  simp only [isValid, daysInMonth_eq, Bool.and_eq_true, decide_eq_true_iff, and_assoc]
  refine and_congr_right fun _ => and_congr_right fun _ => ?_
  constructor
  · rintro ⟨hpos, hday⟩
    obtain ⟨hm, hm'⟩ := month_bounds (Nat.lt_of_lt_of_le hpos hday)
    exact ⟨hm, hm', hpos, hday⟩
  · exact fun he => ⟨he.day_pos, he.day_le⟩

end BracketQuery.Calendar
