import BracketQuery.Binary64.Written
import BracketQuery.Proofs.Binary64

/-!
The shortest decimal of a double. On each decimal grid the search takes the point of the rounding
interval that is nearest to the double, and it takes the coarsest grid that has one. Where that grid
is one of whole numbers, the text is the decimal digits of the point.
-/

namespace BracketQuery

namespace Binary64.Interval

/-- An interval around its value. -/
structure IsProper (i : Interval) : Prop where
  denominator_pos : 0 < i.denominator
  low_lt : i.low < i.value
  lt_high : i.value < i.high

/-- An interval in other units. -/
def times (factor : Nat) (i : Interval) : Interval where
  low := i.low * factor
  value := i.value * factor
  high := i.high * factor
  denominator := i.denominator * factor
  closed := i.closed

variable {i : Interval} {tie : Tie} {k : Nat}

/-! ## Units -/

theorem contains_times {factor : Nat} (hf : 0 < factor) :
    (i.times factor).contains k = i.contains k := by
  simp only [contains, times, ← Nat.mul_assoc, Nat.mul_le_mul_right_iff hf,
    Nat.mul_lt_mul_right hf]

theorem IsProper.times (h : i.IsProper) {factor : Nat} (hf : 0 < factor) :
    (i.times factor).IsProper :=
  ⟨Nat.mul_pos h.denominator_pos hf, Nat.mul_lt_mul_of_pos_right h.low_lt hf,
    Nat.mul_lt_mul_of_pos_right h.lt_high hf⟩

theorem scale_natCast (i : Interval) (e : Nat) :
    i.scale e = { i with denominator := i.denominator * 10 ^ e } := by
  rw [scale, if_pos (Int.natCast_nonneg e), Int.toNat_natCast]

theorem times_scale (factor e : Nat) : (i.times factor).scale e = (i.scale e).times factor := by
  simp only [scale_natCast, times, Nat.mul_right_comm]

theorem mul_denominator_scale (i : Interval) (k e : Nat) :
    k * (i.denominator * 10 ^ e) = k * 10 ^ e * i.denominator := by
  rw [Nat.mul_comm i.denominator, Nat.mul_assoc]

theorem contains_scale (e : Nat) : (i.scale e).contains k = i.contains (k * 10 ^ e) := by
  simp only [contains, scale_natCast, mul_denominator_scale]

theorem IsProper.scale (h : i.IsProper) (e : Nat) : (i.scale e).IsProper := by
  rw [scale_natCast]
  exact ⟨Nat.mul_pos h.denominator_pos (Nat.pow_pos (by decide)), h.low_lt, h.lt_high⟩

/-! ## The nearest point of a grid -/

theorem contains_iff : i.contains k = true ↔
    if i.closed then i.low ≤ k * i.denominator ∧ k * i.denominator ≤ i.high
    else i.low < k * i.denominator ∧ k * i.denominator < i.high := by
  unfold contains
  split <;> simp

/-- What lies between the value and a point of the interval is one too. -/
theorem IsProper.contains_below (h : i.IsProper) {k' : Nat} (hc : i.contains k' = true)
    (hl : k' ≤ k) (hg : k * i.denominator ≤ i.value) : i.contains k = true := by
  have hmul := Nat.mul_le_mul_right i.denominator hl
  have hhigh := h.lt_high
  rw [contains_iff] at hc ⊢
  split at hc <;> simp_all only [↓reduceIte, Bool.false_eq_true] <;> omega

theorem IsProper.contains_above (h : i.IsProper) {k' : Nat} (hc : i.contains k' = true)
    (hl : k ≤ k') (hg : i.value ≤ k * i.denominator) : i.contains k = true := by
  have hmul := Nat.mul_le_mul_right i.denominator hl
  have hlow := h.low_lt
  rw [contains_iff] at hc ⊢
  split at hc <;> simp_all only [↓reduceIte, Bool.false_eq_true] <;> omega

/-- How far a point of the grid is from the value. -/
def distance (i : Interval) (k : Nat) : Nat :=
  (i.value - k * i.denominator) + (k * i.denominator - i.value)

theorem distance_times (factor : Nat) : (i.times factor).distance k = i.distance k * factor := by
  simp only [distance, times, ← Nat.mul_assoc, ← Nat.sub_mul, ← Nat.add_mul]

theorem distance_scale (e : Nat) : (i.scale e).distance k = i.distance (k * 10 ^ e) := by
  simp only [distance, scale_natCast, mul_denominator_scale]

theorem below_mul_le (i : Interval) : i.value / i.denominator * i.denominator ≤ i.value :=
  Nat.div_mul_le_self _ _

theorem IsProper.lt_above_mul (h : i.IsProper) :
    i.value < (i.value / i.denominator + 1) * i.denominator := by
  rw [Nat.mul_comm]
  exact Nat.lt_mul_div_succ _ h.denominator_pos

/-- The search finds nothing on a grid only if the interval has no point of it. -/
theorem IsProper.contains_of_nearest?_eq_none (h : i.IsProper) (hn : i.nearest? tie = none)
    (k : Nat) : i.contains k = false := by
  have hb : i.contains (i.value / i.denominator) = false ∧
      i.contains (i.value / i.denominator + 1) = false := by
    unfold nearest? at hn
    simp only at hn
    split at hn
    · split at hn
      · cases hn
      · split at hn
        · cases hn
        · cases tie <;> cases hn
    · cases hn
    · cases hn
    · exact ⟨‹_›, ‹_›⟩
  refine Bool.eq_false_iff.mpr fun hc => ?_
  rcases Nat.lt_or_ge (i.value / i.denominator) k with hk | hk
  · have := h.contains_above hc hk (Nat.le_of_lt h.lt_above_mul)
    simp_all
  · have := h.contains_below hc hk i.below_mul_le
    simp_all

/-- A point of the interval is no nearer to the value than the point of the grid next to the value
on its side. -/
theorem IsProper.distance_le (h : i.IsProper) (hc : i.contains k = true) :
    (i.contains (i.value / i.denominator) = true ∧
        i.distance (i.value / i.denominator) ≤ i.distance k) ∨
      (i.contains (i.value / i.denominator + 1) = true ∧
        i.distance (i.value / i.denominator + 1) ≤ i.distance k) := by
  have hbelow := i.below_mul_le
  have habove := h.lt_above_mul
  rcases Nat.lt_or_ge (i.value / i.denominator) k with hk | hk
  · refine .inr ⟨h.contains_above hc hk (Nat.le_of_lt habove), ?_⟩
    have hmul : (i.value / i.denominator + 1) * i.denominator ≤ k * i.denominator :=
      Nat.mul_le_mul_right i.denominator hk
    unfold distance
    omega
  · refine .inl ⟨h.contains_below hc hk hbelow, ?_⟩
    have hmul := Nat.mul_le_mul_right i.denominator hk
    unfold distance
    omega

theorem IsProper.distance_below_le_iff (h : i.IsProper) :
    i.distance (i.value / i.denominator) ≤ i.distance (i.value / i.denominator + 1) ↔
      2 * i.value ≤
        (i.value / i.denominator + (i.value / i.denominator + 1)) * i.denominator := by
  have hbelow := i.below_mul_le
  have habove := h.lt_above_mul
  rw [Nat.add_mul (i.value / i.denominator)]
  unfold distance
  omega

theorem IsProper.distance_above_le_iff (h : i.IsProper) :
    i.distance (i.value / i.denominator + 1) ≤ i.distance (i.value / i.denominator) ↔
      (i.value / i.denominator + (i.value / i.denominator + 1)) * i.denominator ≤
        2 * i.value := by
  have hbelow := i.below_mul_le
  have habove := h.lt_above_mul
  rw [Nat.add_mul (i.value / i.denominator)]
  unfold distance
  omega

/-- What the search finds on a grid is a point of the interval, and none is nearer to the value. -/
theorem IsProper.nearest?_spec (h : i.IsProper) (hk : i.nearest? tie = some k) :
    i.contains k = true ∧ ∀ k', i.contains k' = true → i.distance k ≤ i.distance k' := by
  have hbelow := h.distance_below_le_iff
  have habove := h.distance_above_le_iff
  unfold nearest? at hk
  simp only at hk
  split at hk
  · rename_i hb ha
    have hchoice : (k = i.value / i.denominator ∧
          i.distance k ≤ i.distance (i.value / i.denominator + 1)) ∨
        (k = i.value / i.denominator + 1 ∧
          i.distance k ≤ i.distance (i.value / i.denominator)) := by
      split at hk
      · rename_i hlt
        cases hk
        exact .inl ⟨rfl, hbelow.mpr (Nat.le_of_lt hlt)⟩
      · rename_i hge
        split at hk
        · rename_i hlt
          cases hk
          exact .inr ⟨rfl, habove.mpr (Nat.le_of_lt hlt)⟩
        · rename_i hle
          cases tie <;> simp only [Option.some.injEq] at hk
          · split at hk <;> cases hk
            · exact .inl ⟨rfl, hbelow.mpr (Nat.not_lt.mp hle)⟩
            · exact .inr ⟨rfl, habove.mpr (Nat.not_lt.mp hge)⟩
          · cases hk
            exact .inr ⟨rfl, habove.mpr (Nat.not_lt.mp hge)⟩
    refine ⟨?_, fun k' hc => ?_⟩
    · rcases hchoice with ⟨rfl, _⟩ | ⟨rfl, _⟩ <;> assumption
    · have := h.distance_le hc
      rcases hchoice with ⟨rfl, _⟩ | ⟨rfl, _⟩ <;> omega
  · rename_i hb ha
    cases hk
    exact ⟨hb, fun k' hc => (h.distance_le hc).elim And.right fun hc => by simp_all⟩
  · rename_i hb ha
    cases hk
    exact ⟨ha, fun k' hc => (h.distance_le hc).elim (fun hc => by simp_all) And.right⟩
  · cases hk

/-! ## The coarsest grid -/

theorem findSome?_range {β : Type} {n : Nat} {f : Nat → Option β} {b : β}
    (h : (List.range n).findSome? f = some b) :
    ∃ k < n, f k = some b ∧ ∀ j < k, f j = none := by
  rw [List.range_eq_range'] at h
  obtain ⟨before, k, after, hl, hk, hn⟩ := List.findSome?_eq_some_iff.mp h
  obtain ⟨length, _, rfl, hr⟩ := List.range'_eq_append_iff.mp hl
  obtain ⟨rfl, hlt, _⟩ := List.range'_eq_cons_iff.mp hr.symm
  exact ⟨_, by omega, hk, fun j hj => hn j (List.mem_range'.mpr ⟨j, by omega, by omega⟩)⟩

/-- A point of the interval on the coarsest of the grids below `scale` that have one, and there the
nearest to the value. -/
structure IsCoarsest (i : Interval) (scale coefficient place : Nat) : Prop where
  contains : i.contains (coefficient * 10 ^ place) = true
  nearest : ∀ k, i.contains (k * 10 ^ place) = true →
    i.distance (coefficient * 10 ^ place) ≤ i.distance (k * 10 ^ place)
  coarsest : ∀ coarser < scale, (∃ k, i.contains (k * 10 ^ coarser) = true) → coarser ≤ place

theorem IsCoarsest.of_times {factor scale coefficient place : Nat} (hf : 0 < factor)
    (h : (i.times factor).IsCoarsest scale coefficient place) :
    i.IsCoarsest scale coefficient place where
  contains := contains_times hf ▸ h.contains
  nearest k hk := by
    have hd := h.nearest k ((contains_times hf).trans hk)
    rw [distance_times, distance_times] at hd
    exact Nat.le_of_mul_le_mul_right hd hf
  coarsest coarser hlt hk :=
    h.coarsest coarser hlt (hk.imp fun _ hk => (contains_times hf).trans hk)

/-- The point that the search takes on the grid of a number of digits. -/
def ofDigits? (tie : Tie) (i : Interval) (scale : Int) (digits : Nat) : Option Decimal :=
  ((i.scale (scale - (digits + 1))).nearest? tie).map fun n => ⟨n, scale - (digits + 1)⟩

theorem ofDigits?_natCast {scale digits : Nat} (h : digits < scale) :
    i.ofDigits? tie scale digits =
      ((i.scale (scale - (digits + 1) : Nat)).nearest? tie).map fun n =>
        ⟨n, (scale - (digits + 1) : Nat)⟩ := by
  have he : (scale : Int) - (digits + 1) = (scale - (digits + 1) : Nat) := by omega
  rw [ofDigits?, he]

/-- If the interval has a point on one of the grids searched, which are all of whole numbers, then
the search ends on the coarsest of them. -/
theorem IsProper.isCoarsest (h : i.IsProper) (tie : Tie) {scale place : Nat} (hs : 17 ≤ scale)
    (hp : place < scale) (hq : scale ≤ place + 17) (hc : i.contains (k * 10 ^ place) = true) :
    ∃ c e : Nat, (List.range 17).findSome? (i.ofDigits? tie scale) = some ⟨c, e⟩ ∧
      i.IsCoarsest scale c e := by
  have hnone : ∀ digits < scale, i.ofDigits? tie scale digits = none →
      ∀ k, i.contains (k * 10 ^ (scale - (digits + 1))) = false := by
    intro digits hd hn k
    rw [ofDigits?_natCast hd, Option.map_eq_none_iff] at hn
    rw [← contains_scale]
    exact (h.scale _).contains_of_nearest?_eq_none hn k
  cases hf : (List.range 17).findSome? (i.ofDigits? tie scale) with
  | none =>
      have hn := List.findSome?_eq_none_iff.mp hf (scale - (place + 1))
        (List.mem_range.mpr (by omega))
      have hfalse := hnone _ (by omega) hn k
      rw [show scale - (scale - (place + 1) + 1) = place by omega, hc] at hfalse
      cases hfalse
  | some d =>
      obtain ⟨digits, hd, hk, hbefore⟩ := findSome?_range hf
      rw [ofDigits?_natCast (by omega), Option.map_eq_some_iff] at hk
      obtain ⟨c, hk, rfl⟩ := hk
      obtain ⟨hin, hnear⟩ := (h.scale _).nearest?_spec hk
      refine ⟨c, scale - (digits + 1), rfl, contains_scale _ ▸ hin,
        fun k hk => ?_, fun coarser hlt ⟨k, hk⟩ => ?_⟩
      · rw [← distance_scale, ← distance_scale]
        exact hnear k (contains_scale _ ▸ hk)
      · -- A coarser grid would have been searched before.
        refine Nat.not_lt.mp fun hg => ?_
        have hfalse := hnone (scale - (coarser + 1)) (by omega) (hbefore _ (by omega)) k
        rw [show scale - (scale - (coarser + 1) + 1) = coarser by omega, hk] at hfalse
        cases hfalse

end Binary64.Interval

theorem Binary64.shortest_of_findSome? {x : Binary64} {tie : Tie} {d : Decimal}
    (h : (List.range 17).findSome? (x.interval.ofDigits? tie x.decimalScale) = some d) :
    x.shortest tie = d.stripZeros 18 := by
  unfold shortest
  extract_lets scale found
  have hfound : found = some d := h
  clear_value found
  subst hfound
  rfl

/-! ## Whole numbers as decimals -/

namespace Decimal

theorem stripZeros_natCast (fuel coefficient place : Nat) :
    ∃ c e : Nat, stripZeros fuel ⟨coefficient, place⟩ = ⟨c, e⟩ ∧
      c * 10 ^ e = coefficient * 10 ^ place := by
  induction fuel generalizing coefficient place with
  | zero => exact ⟨coefficient, place, rfl, rfl⟩
  | succ fuel ih =>
      rw [stripZeros]
      split
      · rename_i h
        obtain ⟨c, e, hd, hv⟩ := ih (coefficient / 10) (place + 1)
        refine ⟨c, e, hd, ?_⟩
        rw [hv, Nat.pow_succ', ← Nat.mul_assoc, Nat.div_mul_cancel (Nat.dvd_of_mod_eq_zero h.2)]
      · exact ⟨coefficient, place, rfl, rfl⟩

theorem toDigits_mul_ten_pow {n : Nat} (h : 0 < n) (place : Nat) :
    Nat.toDigits 10 (n * 10 ^ place) = Nat.toDigits 10 n ++ List.replicate place '0' := by
  induction place with
  | zero => rw [Nat.pow_zero, Nat.mul_one, List.replicate_zero, List.append_nil]
  | succ place ih =>
      have hpos : 0 < n * 10 ^ place := Nat.mul_pos h (Nat.pow_pos (by decide))
      rw [Nat.pow_succ, ← Nat.mul_assoc, Nat.mul_comm _ 10, ← Nat.add_zero (10 * _),
        ← Nat.toDigits_append_toDigits (by decide) hpos (by decide), ih, List.append_assoc,
        List.replicate_succ']
      rfl

/-- A whole number without an exponent is its digits. -/
theorem positional_stripZeros {coefficient : Nat} (h : 0 < coefficient) (fuel place : Nat) :
    (stripZeros fuel ⟨coefficient, place⟩).positional [] =
      Nat.toDigits 10 (coefficient * 10 ^ place) := by
  obtain ⟨c, e, hd, hv⟩ := stripZeros_natCast fuel coefficient place
  have hc : 0 < c := by
    refine Nat.pos_of_ne_zero fun hz => ?_
    have hpos : 0 < coefficient * 10 ^ place := Nat.mul_pos h (Nat.pow_pos (by decide))
    rw [hz, Nat.zero_mul] at hv
    omega
  rw [hd, positional, if_pos (Int.natCast_nonneg e), Int.toNat_natCast, List.append_nil, digits,
    ← hv, toDigits_mul_ten_pow hc]

end Decimal

end BracketQuery
