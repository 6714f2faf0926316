import Mathlib.Algebra.Order.Group.Abs
import BracketQuery.Proofs.Binary64.Integers
import BracketQuery.Proofs.Binary64.Shortest

/-!
The text of the double nearest to a large integer. A step of such a double is worth `2 ^ 11`, so its
rounding interval has a multiple of `10 ^ 3` and at most one of `10 ^ 4`; the text is the digits of
the latter if there is one, and else of the former that is nearest.
-/

namespace BracketQuery.Binary64

variable {n m k : Nat}

/-! ## Rounding intervals -/

/-- The rounding interval of the large multiple of `2 ^ 11` with a significand, in quarters. -/
def largeInterval (m : Nat) : Interval where
  low := 2 ^ 13 * m - if m = 2 ^ 52 then 2 ^ 11 else 2 ^ 12
  value := 2 ^ 13 * m
  high := 2 ^ 13 * m + if m = 2 ^ 53 then 2 ^ 13 else 2 ^ 12
  denominator := 4
  closed := m % 2 == 0

theorem IsLargeSignificand.isProper (h : IsLargeSignificand m) : (largeInterval m).IsProper where
  denominator_pos := Nat.succ_pos 3
  low_lt := by
    have := h.ge
    simp only [largeInterval]
    split <;> omega
  lt_high := by
    simp only [largeInterval]
    split <;> omega

/-- A point of the interval is at most half a step away, and so far only if the significand is
even. Below `2 ^ 63` steps are half as long, and from `2 ^ 64` twice as long. -/
theorem IsLargeSignificand.contains_iff (h : IsLargeSignificand m) :
    (largeInterval m).contains k = true ↔
      2 ^ 11 * m ≤ k + (if m = 2 ^ 52 then 2 ^ 9 else 2 ^ 10) ∧
        k ≤ 2 ^ 11 * m + (if m = 2 ^ 53 then 2 ^ 11 else 2 ^ 10) ∧
        (m % 2 = 1 → 2 ^ 11 * m < k + 2 ^ 10 ∧ k < 2 ^ 11 * m + 2 ^ 10) := by
  have := h.ge
  rw [Interval.contains_iff]
  simp only [largeInterval, beq_iff_eq]
  split <;> split <;> split <;> omega

theorem IsLargeSignificand.bounds_of_contains (h : IsLargeSignificand m)
    (hk : (largeInterval m).contains k = true) :
    2 ^ 11 * m ≤ k + 2 ^ 10 ∧ k ≤ 2 ^ 11 * m + 2 ^ 11 := by
  obtain ⟨hle, hge, _⟩ := h.contains_iff.mp hk
  constructor
  · split at hle <;> omega
  · split at hge <;> omega

/-- A large integer is in the interval of its significand, and of no other. -/
theorem IsLarge.contains_iff (h : IsLarge n) (hm : IsLargeSignificand m) :
    (largeInterval m).contains n = true ↔ largeSignificand n = m := by
  have hle := h.le
  have hlt := h.lt
  have hl := hm.ge
  have hg := hm.le
  rw [hm.contains_iff]
  constructor
  · rintro ⟨hlow, hhigh, hodd⟩
    refine largeSignificand_eq ?_ ?_ hodd
    · split at hlow <;> omega
    · split at hhigh <;> omega
  · rintro rfl
    obtain ⟨hlow, hhigh, hodd⟩ := largeSignificand_spec n
    refine ⟨?_, ?_, hodd⟩
    · split <;> omega
    · split <;> omega

theorem IsLarge.contains_self (h : IsLarge n) :
    (largeInterval (largeSignificand n)).contains n = true :=
  (h.contains_iff h.significand).mpr rfl

/-- The interval of a double whose step is a whole number, in quarters. -/
theorem interval_eq_times {x : Binary64} {value step : Nat}
    (hv : x.magnitude = value * unitsPerOne) (hs : x.step = step * unitsPerOne) :
    x.interval = Interval.times unitsPerOne
      { low := 4 * value - (if x.fractionField = 0 ∧ 1 < x.exponentField then 1 else 2) * step
        value := 4 * value
        high := 4 * value + 2 * step
        denominator := 4
        closed := x.significand % 2 == 0 } := by
  simp only [interval, Interval.times, hv, hs, ← Nat.mul_assoc, Nat.sub_mul, Nat.add_mul]

/-- A significand of `2 ^ 53` is carried into the exponent, and leaves no fraction. -/
theorem IsLargeSignificand.interval_eq (h : IsLargeSignificand m) :
    (ofFields false (1085 * 2 ^ 52 + m)).interval = (largeInterval m).times unitsPerOne := by
  have hl := h.ge
  have hg := h.le
  have hlt : 1085 * 2 ^ 52 + m < 2 ^ 63 := by omega
  have hexponent := exponentField_ofFields false hlt
  have hfraction := fractionField_ofFields false hlt
  have hmagnitude : (ofFields false (1085 * 2 ^ 52 + m)).magnitude = 2 ^ 11 * m * unitsPerOne :=
    magnitude_ofFields_add false (by decide) hg hl
  rcases Nat.lt_or_eq_of_le hg with hg | rfl
  · rw [show (1085 * 2 ^ 52 + m) / 2 ^ 52 = 1086 by omega] at hexponent
    rw [show (1085 * 2 ^ 52 + m) % 2 ^ 52 = m - 2 ^ 52 by omega] at hfraction
    have hstep := step_eq (k := 11) hexponent
    have hsignificand : (ofFields false (1085 * 2 ^ 52 + m)).significand = m := by
      rw [significand, hexponent, hfraction, if_neg (Nat.succ_ne_zero 1085)]
      omega
    rw [interval_eq_times hmagnitude hstep, hexponent, hfraction, hsignificand, largeInterval]
    refine congrArg _ (Interval.mk.injEq .. ▸ ⟨?_, ?_, ?_, rfl, rfl⟩)
    · split <;> split <;> omega
    · omega
    · split <;> omega
  · have hstep := step_eq (k := 12) hexponent
    rw [interval_eq_times hmagnitude hstep, hexponent, hfraction, significand, hexponent, hfraction,
      largeInterval]
    rfl

/-! ## The text -/

theorem value_lt_denominator_iff (k : Nat) :
    (((largeInterval m).times unitsPerOne).scale k).value <
        (((largeInterval m).times unitsPerOne).scale k).denominator ↔ 2 ^ 11 * m < 10 ^ k := by
  rw [Interval.times_scale, Interval.times, Nat.mul_lt_mul_right unitsPerOne_pos,
    Interval.scale_natCast, largeInterval]
  simp only
  omega

/-- The least power of ten above the value is looked for in three places from an estimate on. -/
theorem decimalScale_eq {x : Binary64} {estimate scale : Int}
    (he : ((Nat.log2 x.magnitude : Int) - 1074) * 30103 / 100000 = estimate)
    (hl : estimate ≤ scale) (hg : scale ≤ estimate + 2)
    (hs : (x.interval.scale scale).value < (x.interval.scale scale).denominator)
    (hb : ∀ k, estimate ≤ k → k < scale →
      ¬ (x.interval.scale k).value < (x.interval.scale k).denominator) :
    x.decimalScale = scale := by
  unfold decimalScale
  simp only [he, List.map_cons, List.map_nil, List.find?_cons]
  obtain rfl | rfl | rfl : scale = estimate + 0 ∨ scale = estimate + 1 ∨ scale = estimate + 2 := by
    omega
  · rw [decide_eq_true hs]
    rfl
  · rw [decide_eq_false (hb (estimate + 0) (by omega) (by omega)), decide_eq_true hs]
    rfl
  · rw [decide_eq_false (hb (estimate + 0) (by omega) (by omega)),
      decide_eq_false (hb (estimate + 1) (by omega) (by omega)), decide_eq_true hs]
    rfl

/-- Large integers have nineteen or twenty digits, and so have the doubles nearest to them. -/
theorem IsLargeSignificand.decimalScale_eq (h : IsLargeSignificand m) :
    ∃ scale : Nat, (scale = 19 ∨ scale = 20) ∧
      (ofFields false (1085 * 2 ^ 52 + m)).decimalScale = scale := by
  have hl := h.ge
  have hg := h.le
  have hmagnitude : (ofFields false (1085 * 2 ^ 52 + m)).magnitude = 2 ^ 11 * m * unitsPerOne :=
    magnitude_ofFields_add false (by decide) hg hl
  have hpos : 2 ^ 11 * m ≠ 0 := by omega
  have hlog : Nat.log2 (2 ^ 11 * m) = if m = 2 ^ 53 then 64 else 63 := by
    rw [Nat.log2_eq_iff hpos]
    split <;> omega
  obtain ⟨scale, hscale, hlow, hhigh⟩ : ∃ scale : Nat, (scale = 19 ∨ scale = 20) ∧
      10 ^ (scale - 1) ≤ 2 ^ 11 * m ∧ 2 ^ 11 * m < 10 ^ scale := by
    by_cases h19 : 2 ^ 11 * m < 10 ^ 19
    · exact ⟨19, .inl rfl, by omega, h19⟩
    · exact ⟨20, .inr rfl, by omega, by omega⟩
  refine ⟨scale, hscale, ?_⟩
  have hestimate : ((Nat.log2 (ofFields false (1085 * 2 ^ 52 + m)).magnitude : Int) - 1074) *
      30103 / 100000 = if m = 2 ^ 53 then 19 else 18 := by
    rw [hmagnitude, log2_mul_unitsPerOne hpos, hlog]
    split <;> rfl
  refine Binary64.decimalScale_eq hestimate ?_ ?_ ?_ fun k hk hlt => ?_
  · split <;> omega
  · split <;> omega
  · rw [h.interval_eq, value_lt_denominator_iff]
    exact hhigh
  · obtain ⟨k, rfl⟩ := Int.eq_ofNat_of_zero_le (show 0 ≤ k by split at hk <;> omega)
    rw [h.interval_eq, value_lt_denominator_iff, Nat.not_lt]
    exact Nat.le_trans (Nat.pow_le_pow_right (by decide) (by omega)) hlow

/-- A positive number is sent as its shortest decimal. -/
theorem wireText_of_pos {x : Binary64} (hf : x.isFinite = true) (hn : x.negative = false)
    (he : x.exponentField ≠ 0) :
    x.wireText = String.ofList ((x.shortest .up).positional []) := by
  have hne : (x.exponentField == 2047) = false := beq_eq_false_iff_ne.mpr (bne_iff_ne.mp hf)
  have hz : (x.exponentField == 0) = false := beq_eq_false_iff_ne.mpr he
  simp only [wireText, isNaN, isInfinite, isZero, hne, hz, Bool.false_and, Bool.false_eq_true,
    ↓reduceIte, signText, hn, List.nil_append]

/-- Multiples of `10 ^ 3` are less than two halves of the shortest step apart. -/
theorem IsLargeSignificand.contains_thousand (h : IsLargeSignificand m) :
    (largeInterval m).contains ((2 ^ 11 * m + 500) / 10 ^ 3 * 10 ^ 3) = true := by
  rw [h.contains_iff]
  split <;> split <;> omega

/-- The double nearest to a large integer is sent as the digits of a point of its interval on the
coarsest grid that has one. -/
theorem IsLarge.exists_wireText (h : IsLarge n) :
    ∃ scale c e : Nat, (scale = 19 ∨ scale = 20) ∧
      (largeInterval (largeSignificand n)).IsCoarsest scale c e ∧
      (ofInt n).wireText = toString (c * 10 ^ e) := by
  have hm := h.significand
  have hlt : 1085 * 2 ^ 52 + largeSignificand n < 2 ^ 63 := by
    have := hm.le
    omega
  obtain ⟨scale, hscale, hdecimal⟩ := hm.decimalScale_eq
  obtain ⟨c, e, hfound, hc⟩ := (hm.isProper.times unitsPerOne_pos).isCoarsest .up
    (show 17 ≤ scale by omega) (show 3 < scale by omega) (by omega)
    ((Interval.contains_times unitsPerOne_pos).trans hm.contains_thousand)
  have hc := hc.of_times unitsPerOne_pos
  have hpos : 0 < c := by
    have hb := hm.bounds_of_contains hc.contains
    have hl := hm.ge
    refine Nat.pos_of_ne_zero fun hz => ?_
    rw [hz, Nat.zero_mul] at hb
    omega
  have hshortest : (ofInt n).shortest .up = Decimal.stripZeros 18 ⟨c, e⟩ := by
    apply shortest_of_findSome?
    rw [h.ofInt_eq, hdecimal, hm.interval_eq, hfound]
  have hnegative : (ofInt n).negative = false := by
    rw [h.ofInt_eq, negative_ofFields false hlt]
  have hexponent : (ofInt n).exponentField ≠ 0 := by
    rw [h.ofInt_eq, exponentField_ofFields false hlt]
    omega
  refine ⟨scale, c, e, hscale, hc, ?_⟩
  rw [wireText_of_pos h.isFinite_ofInt hnegative hexponent, hshortest,
    Decimal.positional_stripZeros hpos, ← Nat.repr_eq_ofList_toDigits]
  rfl

/-! ## The number written -/

/-- A number whose digits are those that the double with a significand is sent as. -/
structure IsWritten (m w : Nat) : Prop where
  contains : (largeInterval m).contains w = true
  dvd : 10 ^ 3 ∣ w
  coarsest : ∀ k, (largeInterval m).contains k = true → 10 ^ 4 ∣ k → 10 ^ 4 ∣ w
  nearest : 10 ^ 4 ∣ w ∨ ∀ k, (largeInterval m).contains k = true → 10 ^ 3 ∣ k →
    (largeInterval m).distance w ≤ (largeInterval m).distance k

theorem isWritten_of_isCoarsest (hm : IsLargeSignificand m) {scale c e : Nat}
    (hscale : scale = 19 ∨ scale = 20) (h : (largeInterval m).IsCoarsest scale c e) :
    IsWritten m (c * 10 ^ e) := by
  have hle : 3 ≤ e := h.coarsest 3 (by omega) ⟨_, hm.contains_thousand⟩
  have hdvd (place : Nat) (hp : place ≤ e) : 10 ^ place ∣ c * 10 ^ e :=
    Nat.dvd_mul_left_of_dvd (Nat.pow_dvd_pow 10 hp) c
  refine ⟨h.contains, hdvd 3 hle, fun k hk h4 => ?_, ?_⟩
  · obtain ⟨k, rfl⟩ := h4
    rw [Nat.mul_comm] at hk
    exact hdvd 4 (h.coarsest 4 (by omega) ⟨k, hk⟩)
  · rcases Nat.lt_or_eq_of_le hle with hlt | rfl
    · exact .inl (hdvd 4 hlt)
    · refine .inr fun k hk h3 => ?_
      obtain ⟨k, rfl⟩ := h3
      rw [Nat.mul_comm (10 ^ 3) k] at hk ⊢
      exact h.nearest k hk

theorem IsLarge.exists_isWritten (h : IsLarge n) :
    ∃ w, IsWritten (largeSignificand n) w ∧ (ofInt n).wireText = toString w := by
  obtain ⟨scale, c, e, hscale, hc, ht⟩ := h.exists_wireText
  exact ⟨_, isWritten_of_isCoarsest h.significand hscale hc, ht⟩

section

variable {w w' : Nat} (hm : IsLargeSignificand m)

include hm

theorem IsWritten.le (h : IsWritten m w) : 2 ^ 63 ≤ w := by
  have hc := hm.contains_iff.mp h.contains
  have hd := h.dvd
  have hl := hm.ge
  split at hc <;> omega

/-- On the grid of `10 ^ 3` the nearest point is at most `500` away. -/
theorem IsWritten.near (h : IsWritten m w) (h4 : ¬ 10 ^ 4 ∣ w) :
    w ≤ 2 ^ 11 * m + 500 ∧ 2 ^ 11 * m ≤ w + 500 := by
  have hd := h.nearest.resolve_left h4 _ hm.contains_thousand (Nat.dvd_mul_left _ _)
  simp only [Interval.distance, largeInterval] at hd
  omega

/-- The value is a multiple of `8`, so two multiples of `10 ^ 3` are not equally near. -/
theorem IsWritten.unique (h : IsWritten m w) (h' : IsWritten m w') : w = w' := by
  have hdvd := h.dvd
  have hdvd' := h'.dvd
  by_cases h4 : 10 ^ 4 ∣ w
  · have h4' := h'.coarsest w h.contains h4
    have hb := hm.bounds_of_contains h.contains
    have hb' := hm.bounds_of_contains h'.contains
    have hlt : w < w' + 10 ^ 4 ∧ w' < w + 10 ^ 4 := by omega
    omega
  · have h4' : ¬ 10 ^ 4 ∣ w' := fun h4' => h4 (h.coarsest w' h'.contains h4')
    have hn := h.near hm h4
    have hn' := h'.near hm h4'
    have hle : w ≤ w' + 10 ^ 3 ∧ w' ≤ w + 10 ^ 3 := by omega
    omega

/-- Intervals have no point in common. -/
theorem IsLargeSignificand.eq_of_contains {m' : Nat} (hm' : IsLargeSignificand m')
    (h : (largeInterval m).contains w = true) (h' : (largeInterval m').contains w = true) :
    m = m' := by
  have hc := hm.contains_iff.mp h
  have hc' := hm'.contains_iff.mp h'
  have hg := hm.le
  have hg' := hm'.le
  split at hc <;> split at hc <;> split at hc' <;> split at hc' <;> omega

/-- No multiple of `10 ^ 4` is so near to an end of the range that it would lie beyond. -/
theorem IsLargeSignificand.isLarge_of_contains (h : (largeInterval m).contains k = true)
    (h4 : 10 ^ 4 ∣ k) : IsLarge k := by
  have hc := hm.contains_iff.mp h
  have hl := hm.ge
  have hg := hm.le
  constructor <;> split at hc <;> split at hc <;> omega

end

/-! ## Integers that are kept -/

/-- The integers that are sent as the double nearest to them, and still digit for digit: multiples
of `10 ^ 4`, and multiples of `10 ^ 3` so near to their double that no other is nearer, unless some
multiple of `10 ^ 4` has that double too. -/
def IsKept (n : Nat) : Prop :=
  10 ^ 4 ∣ n ∨ 10 ^ 3 ∣ n ∧ |(n : Rat) - (ofInt n).exact| < 500 ∧
    ∀ k : Nat, IsLarge k → 10 ^ 4 ∣ k → ofInt k ≠ ofInt n

namespace IsLarge

variable (h : IsLarge n)

include h

theorem ofInt_inj (hk : IsLarge k) :
    ofInt k = ofInt n ↔ largeSignificand k = largeSignificand n := by
  refine ⟨fun he => ?_, fun he => by rw [h.ofInt_eq, hk.ofInt_eq, he]⟩
  have hmagnitude := congrArg magnitude he
  rw [h.magnitude_ofInt, hk.magnitude_ofInt] at hmagnitude
  have := Nat.eq_of_mul_eq_mul_right unitsPerOne_pos hmagnitude
  omega

theorem near_exact_iff : |(n : Rat) - (ofInt n).exact| < 500 ↔
    n < 2 ^ 11 * largeSignificand n + 500 ∧ 2 ^ 11 * largeSignificand n < n + 500 := by
  rw [h.exact_ofInt, abs_sub_lt_iff, sub_lt_iff_lt_add', sub_lt_iff_lt_add']
  exact_mod_cast Iff.rfl

/-- The integers with the same double are those in its interval. -/
theorem forall_ofInt_ne_iff : (∀ k : Nat, IsLarge k → 10 ^ 4 ∣ k → ofInt k ≠ ofInt n) ↔
    ∀ k, (largeInterval (largeSignificand n)).contains k = true → ¬ 10 ^ 4 ∣ k := by
  have hm := h.significand
  constructor
  · intro hk k hc h4
    have hlarge := hm.isLarge_of_contains hc h4
    exact hk k hlarge h4 ((h.ofInt_inj hlarge).mpr ((hlarge.contains_iff hm).mp hc))
  · intro hk k hlarge h4 he
    exact hk k ((hlarge.contains_iff hm).mpr ((h.ofInt_inj hlarge).mp he)) h4

/-- A large integer is written as the double nearest to it exactly if it is kept. -/
theorem isWritten_self_iff : IsWritten (largeSignificand n) n ↔ IsKept n := by
  rw [IsKept, h.near_exact_iff, h.forall_ofInt_ne_iff]
  constructor
  · intro hw
    by_cases h4 : 10 ^ 4 ∣ n
    · exact .inl h4
    · have hn := hw.near h.significand h4
      have h3 := hw.dvd
      exact .inr ⟨h3, by omega, fun k hk hk4 => h4 (hw.coarsest k hk hk4)⟩
  · rintro (h4 | ⟨h3, hn, hnone⟩)
    · exact ⟨h.contains_self, by omega, fun _ _ _ => h4, .inl h4⟩
    · refine ⟨h.contains_self, h3, fun k hk hk4 => absurd hk4 (hnone k hk), .inr fun k _ hk3 => ?_⟩
      simp only [Interval.distance, largeInterval]
      rcases Nat.lt_trichotomy k n with hlt | rfl | hlt
      · have hfar : k + 10 ^ 3 ≤ n := by omega
        omega
      · exact Nat.le_refl _
      · have hfar : n + 10 ^ 3 ≤ k := by omega
        omega

end IsLarge

end BracketQuery.Binary64
