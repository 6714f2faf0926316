import BracketQuery.Binary64.Scaling

/-!
Rounding stays among the finite doubles while the quotient is below `2 ^ 1023`. In particular every
integer of 64 bits, signed or not, has a nearest double, and scaling one by a power of ten gives a
finite double or none.
-/

namespace BracketQuery.Binary64

theorem exponentField_ofFields (negative : Bool) {rest : Nat} (h : rest < 2 ^ 63) :
    (ofFields negative rest).exponentField = rest / 2 ^ 52 := by
  have hr : (UInt64.ofNat ((if negative then 2 ^ 63 else 0) + rest)).toNat =
      (if negative then 2 ^ 63 else 0) + rest := by
    apply UInt64.toNat_ofNat_of_lt
    show _ < 2 ^ 64
    split <;> omega
  simp only [exponentField, ofFields, hr]
  split <;> omega

theorem isFinite_ofFields (negative : Bool) {rest : Nat} (h : rest < 2047 * 2 ^ 52) :
    (ofFields negative rest).isFinite = true := by
  rw [isFinite, exponentField_ofFields negative (Nat.lt_trans h (by decide)), bne_iff_ne]
  omega

/-! ## The leading bit of a quotient -/

variable {num den : Nat}

theorem lt_den_mul_two_pow (hd : den ≠ 0) :
    num < den * 2 ^ (Nat.log2 num - Nat.log2 den + 1) := by
  have hden : 2 ^ Nat.log2 den ≤ den := Nat.log2_self_le hd
  calc num < 2 ^ (Nat.log2 num + 1) := Nat.lt_log2_self
    _ ≤ 2 ^ (Nat.log2 den + (Nat.log2 num - Nat.log2 den + 1)) :=
        Nat.pow_le_pow_right (by omega) (by omega)
    _ = 2 ^ Nat.log2 den * 2 ^ (Nat.log2 num - Nat.log2 den + 1) := Nat.pow_add ..
    _ ≤ den * 2 ^ (Nat.log2 num - Nat.log2 den + 1) := Nat.mul_le_mul_right _ hden

/-- A quotient is below the next power of two. -/
theorem lt_two_pow_leadingBit (hd : den ≠ 0) : num < den * 2 ^ (leadingBit num den + 1) := by
  unfold leadingBit
  simp only
  split
  · exact lt_den_mul_two_pow hd
  · rename_i h
    calc num < den * 2 ^ (Nat.log2 num - Nat.log2 den) := Nat.lt_of_not_le h
      _ ≤ den * 2 ^ (Nat.log2 num - Nat.log2 den - 1 + 1) :=
          Nat.mul_le_mul_left _ (Nat.pow_le_pow_right (by omega) (by omega))

theorem leadingBit_le {bound : Nat} (h : num < den * 2 ^ (bound + 1)) :
    leadingBit num den ≤ bound := by
  unfold leadingBit
  simp only
  split
  · rename_i hl
    have hp : 2 ^ (Nat.log2 num - Nat.log2 den) < 2 ^ (bound + 1) :=
      Nat.lt_of_mul_lt_mul_left (Nat.lt_of_le_of_lt hl h)
    have := (Nat.pow_lt_pow_iff_right (by omega : 1 < 2)).mp hp
    omega
  · rename_i hl
    have hn : num ≠ 0 → 2 ^ Nat.log2 num ≤ num := fun hn => Nat.log2_self_le hn
    have hlog : Nat.log2 num ≤ Nat.log2 den + bound + 1 := by
      by_cases hz : num = 0
      · simp [hz]
      · have hlt : 2 ^ Nat.log2 num < 2 ^ (Nat.log2 den + 1 + (bound + 1)) := by
          calc 2 ^ Nat.log2 num ≤ num := hn hz
            _ < den * 2 ^ (bound + 1) := h
            _ ≤ 2 ^ (Nat.log2 den + 1) * 2 ^ (bound + 1) :=
                Nat.mul_le_mul_right _ (Nat.le_of_lt Nat.lt_log2_self)
            _ = 2 ^ (Nat.log2 den + 1 + (bound + 1)) := (Nat.pow_add ..).symm
        have := (Nat.pow_lt_pow_iff_right (by omega : 1 < 2)).mp hlt
        omega
    omega

/-! ## Rounding -/

theorem unitsPerOne_pos : 0 < unitsPerOne := by
  rw [unitsPerOne]
  exact Nat.two_pow_pos 1074

theorem roundDiv_le (num den : Nat) : roundDiv num den ≤ num / den + 1 := by
  unfold roundDiv
  simp only
  split
  · omega
  · split
    · omega
    · split <;> omega

/-- Below `2 ^ 1023` ones, rounding gives a finite double. -/
theorem isFinite_ofUnits (negative : Bool) (hd : den ≠ 0)
    (h : num < den * (2 ^ 1023 * unitsPerOne)) : (ofUnits negative num den).isFinite = true := by
  have hunits : 2 ^ 1023 * unitsPerOne = 2 ^ (2096 + 1) := by rw [unitsPerOne, ← Nat.pow_add]
  have hbit : leadingBit num den ≤ 2096 := leadingBit_le (hunits ▸ h)
  have hquot : num / (den * 2 ^ (leadingBit num den - 52)) < 2 ^ 53 := by
    rw [Nat.div_lt_iff_lt_mul (Nat.mul_pos (Nat.pos_of_ne_zero hd) (Nat.two_pow_pos _))]
    calc num < den * 2 ^ (leadingBit num den + 1) := lt_two_pow_leadingBit hd
      _ ≤ den * 2 ^ (53 + (leadingBit num den - 52)) :=
          Nat.mul_le_mul_left _ (Nat.pow_le_pow_right (by omega) (by omega))
      _ = 2 ^ 53 * (den * 2 ^ (leadingBit num den - 52)) := by
          rw [Nat.pow_add, Nat.mul_left_comm]
  have hround := roundDiv_le num (den * 2 ^ (leadingBit num den - 52))
  have hrest : (leadingBit num den - 52) * 2 ^ 52 +
      roundDiv num (den * 2 ^ (leadingBit num den - 52)) < 2047 * 2 ^ 52 := by omega
  unfold ofUnits
  simp only [if_pos hrest]
  exact isFinite_ofFields negative hrest

theorem isFinite_ofRatio (negative : Bool) {coefficient : Nat} (h : coefficient ≤ 2 ^ 64) :
    (ofRatio negative coefficient 1).isFinite = true := by
  have hn : coefficient < 2 ^ 1023 :=
    Nat.lt_of_le_of_lt h (Nat.pow_lt_pow_right (by decide) (by decide))
  unfold ofRatio
  apply isFinite_ofUnits _ Nat.one_ne_zero
  rw [Nat.one_mul]
  exact (Nat.mul_lt_mul_right unitsPerOne_pos).mpr hn

theorem isFinite_ofInt {n : Int} (h : n.natAbs ≤ 2 ^ 64) : (ofInt n).isFinite = true :=
  isFinite_ofRatio _ h

/-! ## Scaling -/

theorem two_mul_unitsPerOne : 2 * unitsPerOne = 2 ^ 1075 := by
  rw [unitsPerOne, ← Nat.pow_succ']

/-- Finite doubles are below `2 ^ 1024` ones. -/
theorem magnitude_lt {x : Binary64} (h : x.isFinite = true) :
    x.magnitude < 2 * unitsPerOne * 2 ^ 1023 := by
  have hf : x.fractionField < 2 ^ 52 := Nat.mod_lt _ (Nat.two_pow_pos 52)
  have he : x.exponentField < 2 ^ 11 := Nat.mod_lt _ (Nat.two_pow_pos 11)
  have hne : x.exponentField ≠ 2047 := bne_iff_ne.mp h
  have hs : x.significand < 2 ^ 53 := by
    unfold significand
    split <;> omega
  have hstep : x.step ≤ 2 ^ 2045 := Nat.pow_le_pow_right (by decide) (by omega)
  calc x.magnitude < 2 ^ 53 * 2 ^ 2045 :=
        Nat.mul_lt_mul_of_lt_of_le hs hstep (Nat.two_pow_pos 2045)
    _ = 2 * unitsPerOne * 2 ^ 1023 := by rw [two_mul_unitsPerOne, ← Nat.pow_add, ← Nat.pow_add]

theorem le_magnitude {x : Binary64} (h : 1024 ≤ x.exponentField) :
    2 * unitsPerOne ≤ x.magnitude := by
  have hs : 2 ^ 52 ≤ x.significand := by
    rw [significand, if_neg (by omega)]
    omega
  have hstep : 2 ^ 1023 ≤ x.step := Nat.pow_le_pow_right (by decide) (by omega)
  calc 2 * unitsPerOne = 2 ^ 52 * 2 ^ 1023 := by rw [two_mul_unitsPerOne, ← Nat.pow_add]
    _ ≤ x.magnitude := Nat.mul_le_mul hs hstep

theorem le_roundDiv (num den : Nat) : num / den ≤ roundDiv num den := by
  unfold roundDiv
  simp only
  split
  · omega
  · split
    · omega
    · split <;> omega

theorem leadingBit_one (hn : num ≠ 0) : leadingBit num 1 = Nat.log2 num := by
  have hl : Nat.log2 1 = 0 := rfl
  have hle : 1 * 2 ^ Nat.log2 num ≤ num := (Nat.one_mul _).symm ▸ Nat.log2_self_le hn
  unfold leadingBit
  rw [hl, Nat.sub_zero]
  exact if_pos hle

/-- Doubles from two on have the upper half of the exponents. -/
theorem le_exponentField_ofRatio (negative : Bool) {coefficient : Nat} (h : 2 ≤ coefficient) :
    1024 ≤ (ofRatio negative coefficient 1).exponentField := by
  have hnum : 2 ^ 1075 ≤ coefficient * unitsPerOne :=
    two_mul_unitsPerOne ▸ Nat.mul_le_mul_right unitsPerOne h
  revert hnum
  unfold ofRatio ofUnits
  generalize coefficient * unitsPerOne = num
  intro hnum
  have hpos : num ≠ 0 := Nat.ne_of_gt (Nat.lt_of_lt_of_le (Nat.two_pow_pos 1075) hnum)
  have hlog : 1075 ≤ Nat.log2 num := (Nat.le_log2 hpos).mpr hnum
  have hround : 2 ^ 52 ≤ roundDiv num (1 * 2 ^ (Nat.log2 num - 52)) := by
    refine Nat.le_trans ?_ (le_roundDiv _ _)
    rw [Nat.one_mul, Nat.le_div_iff_mul_le (Nat.two_pow_pos _), ← Nat.pow_add,
      show 52 + (Nat.log2 num - 52) = Nat.log2 num by omega]
    exact Nat.log2_self_le hpos
  simp only [leadingBit_one hpos]
  split
  · rename_i hlt
    rw [exponentField_ofFields _ (Nat.lt_trans hlt (by decide)),
      Nat.le_div_iff_mul_le (Nat.two_pow_pos 52)]
    omega
  · rw [infinity, exponentField_ofFields _ (by decide)]
    decide

theorem le_magnitude_tenPow {exponent : Nat} (h : exponent ≠ 0) :
    2 * unitsPerOne ≤ (tenPow exponent).magnitude := by
  have hten : 2 ≤ 10 ^ exponent := by
    calc 2 ≤ 10 ^ 1 := by decide
      _ ≤ 10 ^ exponent := Nat.pow_le_pow_right (by decide) (Nat.pos_of_ne_zero h)
  exact le_magnitude (le_exponentField_ofRatio false hten)

theorem isFinite_div {x y : Binary64} (hx : x.isFinite = true)
    (hy : 2 * unitsPerOne ≤ y.magnitude) : (x.div y).isFinite = true := by
  have hpos : y.magnitude ≠ 0 := by
    have := unitsPerOne_pos
    omega
  have hlt : x.magnitude < y.magnitude * 2 ^ 1023 :=
    Nat.lt_of_lt_of_le (magnitude_lt hx) (Nat.mul_le_mul_right _ hy)
  have hnum := (Nat.mul_lt_mul_right unitsPerOne_pos).mpr hlt
  rw [Nat.mul_assoc] at hnum
  unfold div ofRatio
  exact isFinite_ofUnits _ hpos hnum

theorem isFinite_scaleDown {x : Binary64} {exponent : Nat} (h : exponent ≠ 0)
    (hx : x.isFinite = true) : (x.scaleDown exponent).isFinite = true := by
  induction x, exponent using scaleDown.induct with
  | case1 x exponent hle =>
      rw [scaleDown, if_pos hle]
      exact isFinite_div hx (le_magnitude_tenPow h)
  | case2 x exponent hgt hz =>
      rw [scaleDown, if_neg hgt, if_pos hz]
      exact hx
  | case3 x exponent hgt hz ih =>
      rw [scaleDown, if_neg hgt, if_neg hz]
      exact ih (by omega) (isFinite_div hx (le_magnitude_tenPow (by decide)))

theorem isFinite_scaleUp? {x y : Binary64} {exponent : Nat} (hx : x.isFinite = true)
    (h : x.scaleUp? exponent = some y) : y.isFinite = true := by
  unfold scaleUp? at h
  split at h
  · simp only [Option.ite_none_right_eq_some] at h
    exact Option.some.inj h.2 ▸ h.1
  · simp only [Option.ite_none_right_eq_some] at h
    exact Option.some.inj h.2 ▸ hx

theorem isFinite_ofScaled? {negative : Bool} {coefficient : Nat} {exponent : Int} {x : Binary64}
    (hc : coefficient ≤ 2 ^ 64) (h : ofScaled? negative coefficient exponent = some x) :
    x.isFinite = true := by
  have hr := isFinite_ofRatio negative hc
  unfold ofScaled? at h
  simp only at h
  split at h
  · exact isFinite_scaleUp? hr h
  · have hne : (-exponent).toNat ≠ 0 := by omega
    exact Option.some.inj h ▸ isFinite_scaleDown hne hr

end BracketQuery.Binary64
