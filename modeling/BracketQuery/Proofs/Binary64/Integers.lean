import Mathlib.Algebra.Order.Field.Rat
import Mathlib.Data.Int.Cast.Lemmas
import Mathlib.Tactic.Linarith
import BracketQuery.Integer
import BracketQuery.Proofs.Binary64

/-!
The exact values of doubles, and the doubles nearest to integers. An integer from `2 ^ 63` to
`2 ^ 64` is taken to a multiple of `2 ^ 11`, the nearest one, and of two the one with an even
significand.
-/

namespace BracketQuery.Binary64

/-! ## Exact values -/

/-- The exact value of a finite double in units of `2 ^ -1074`. -/
def signedMagnitude (x : Binary64) : Int := if x.negative then -(x.magnitude : Int) else x.magnitude

/-- The exact value of a finite double. -/
def exact (x : Binary64) : Rat := (x.signedMagnitude : Rat) / (unitsPerOne : Nat)

theorem exact_eq_intCast_iff {x : Binary64} {n : Int} :
    x.exact = n ↔ x.signedMagnitude = n * (unitsPerOne : Nat) := by
  have hu : ((unitsPerOne : Nat) : Rat) ≠ 0 := Nat.cast_ne_zero.mpr unitsPerOne_pos.ne'
  rw [exact, div_eq_iff hu, ← Int.cast_natCast, ← Int.cast_mul, Int.cast_inj]

/-- A finite double is taken for an integer if it is one, and then for itself. -/
theorem toInt?_eq_some_iff {x : Binary64} (h : x.isFinite = true) {n : Int} :
    x.toInt? = some n ↔ x.exact = n := by
  rw [exact_eq_intCast_iff, toInt?, signedMagnitude, h, Bool.true_and]
  have hu := unitsPerOne_pos
  generalize unitsPerOne = u at hu
  simp only [Option.ite_none_right_eq_some, beq_iff_eq, Option.some.injEq]
  constructor
  · rintro ⟨hm, rfl⟩
    have he : (x.magnitude : Int) = (x.magnitude / u : Nat) * (u : Int) := by
      exact_mod_cast (Nat.div_mul_cancel (Nat.dvd_of_mod_eq_zero hm)).symm
    cases x.negative with
    | true => rw [if_pos rfl, if_pos rfl, Int.neg_mul, ← he]
    | false => rw [if_neg Bool.false_ne_true, if_neg Bool.false_ne_true, ← he]
  · intro he
    have hm : x.magnitude = n.natAbs * u := by
      have ha := congrArg Int.natAbs he
      rw [Int.natAbs_mul, Int.natAbs_natCast] at ha
      rw [← ha]
      split <;> simp
    rw [hm, Nat.mul_mod_left, Nat.mul_div_cancel _ hu]
    refine ⟨rfl, ?_⟩
    have hup : (0 : Int) < u := by exact_mod_cast hu
    cases hn : x.negative with
    | true =>
        rw [hn, if_pos rfl] at he
        have hle : n ≤ 0 := by nlinarith
        rw [if_pos rfl]
        omega
    | false =>
        rw [hn, if_neg Bool.false_ne_true] at he
        have hle : 0 ≤ n := by nlinarith
        rw [if_neg Bool.false_ne_true]
        omega

/-! ## The fields of a double -/

theorem toNat_bits_ofFields (negative : Bool) {rest : Nat} (h : rest < 2 ^ 63) :
    (ofFields negative rest).bits.toNat = (if negative then 2 ^ 63 else 0) + rest := by
  apply UInt64.toNat_ofNat_of_lt
  show _ < 2 ^ 64
  split <;> omega

theorem negative_ofFields (negative : Bool) {rest : Nat} (h : rest < 2 ^ 63) :
    (ofFields negative rest).negative = negative := by
  rw [Binary64.negative, toNat_bits_ofFields negative h]
  cases negative with
  | true => exact beq_iff_eq.mpr (by rw [if_pos rfl]; omega)
  | false => exact beq_eq_false_iff_ne.mpr (by rw [if_neg Bool.false_ne_true]; omega)

theorem fractionField_ofFields (negative : Bool) {rest : Nat} (h : rest < 2 ^ 63) :
    (ofFields negative rest).fractionField = rest % 2 ^ 52 := by
  rw [fractionField, toNat_bits_ofFields negative h]
  split <;> omega

/-- A significand and the place of its last bit, below which there is room only in the lowest place,
make up a double: a carry of the significand to `2 ^ 53` is one of the exponent. -/
theorem magnitude_ofFields (negative : Bool) {place significand : Nat} (hp : place < 2045)
    (hs : significand ≤ 2 ^ 53) (hn : place = 0 ∨ 2 ^ 52 ≤ significand) :
    (ofFields negative (place * 2 ^ 52 + significand)).magnitude = significand * 2 ^ place := by
  have hlt : place * 2 ^ 52 + significand < 2 ^ 63 := by omega
  rw [magnitude, Binary64.significand, step, exponentField_ofFields negative hlt,
    fractionField_ofFields negative hlt]
  rcases Nat.lt_or_eq_of_le hs with hs | rfl
  · rcases hn with rfl | hn
    · by_cases h52 : significand < 2 ^ 52
      · have he : (0 * 2 ^ 52 + significand) / 2 ^ 52 = 0 := by omega
        have hf : (0 * 2 ^ 52 + significand) % 2 ^ 52 = significand := by omega
        rw [he, hf, if_pos rfl]
      · have he : (0 * 2 ^ 52 + significand) / 2 ^ 52 = 1 := by omega
        have hf : 2 ^ 52 + (0 * 2 ^ 52 + significand) % 2 ^ 52 = significand := by omega
        rw [he, hf, if_neg Nat.one_ne_zero]
    · have he : (place * 2 ^ 52 + significand) / 2 ^ 52 = place + 1 := by omega
      have hf : 2 ^ 52 + (place * 2 ^ 52 + significand) % 2 ^ 52 = significand := by omega
      rw [he, hf, if_neg (Nat.succ_ne_zero place), Nat.add_sub_cancel]
  · have he : (place * 2 ^ 52 + 2 ^ 53) / 2 ^ 52 = place + 2 := by omega
    have hf : (place * 2 ^ 52 + 2 ^ 53) % 2 ^ 52 = 0 := by omega
    rw [he, hf, if_neg (Nat.succ_ne_zero _), Nat.add_zero, show place + 2 - 1 = place + 1 from rfl,
      Nat.pow_succ' (n := place), ← Nat.mul_assoc, ← Nat.pow_succ]

theorem two_pow_add_1074 (k : Nat) : 2 ^ (k + 1074) = 2 ^ k * unitsPerOne := by
  rw [Nat.pow_add, unitsPerOne]

theorem log2_mul_unitsPerOne {n : Nat} (h : n ≠ 0) :
    Nat.log2 (n * unitsPerOne) = Nat.log2 n + 1074 := by
  rw [Nat.log2_eq_iff (Nat.mul_ne_zero h unitsPerOne_pos.ne'), Nat.add_right_comm,
    two_pow_add_1074, two_pow_add_1074]
  exact ⟨Nat.mul_le_mul_right unitsPerOne (Nat.log2_self_le h),
    Nat.mul_lt_mul_of_pos_right Nat.lt_log2_self unitsPerOne_pos⟩

theorem step_eq {x : Binary64} {k : Nat} (h : x.exponentField = k + 1074 + 1) :
    x.step = 2 ^ k * unitsPerOne := by
  rw [step, h, Nat.add_sub_cancel, two_pow_add_1074]

theorem magnitude_ofFields_add (negative : Bool) {k significand : Nat} (hk : k < 971)
    (hs : significand ≤ 2 ^ 53) (hn : 2 ^ 52 ≤ significand) :
    (ofFields negative ((k + 1074) * 2 ^ 52 + significand)).magnitude =
      2 ^ k * significand * unitsPerOne := by
  rw [magnitude_ofFields negative (by omega) hs (.inr hn), two_pow_add_1074, ← Nat.mul_assoc,
    Nat.mul_comm significand]

/-! ## Integers of 64 bits without a sign -/

theorem roundDiv_mul_right {factor : Nat} (hf : 0 < factor) (num den : Nat) :
    roundDiv (num * factor) (den * factor) = roundDiv num den := by
  have hlt : ∀ a b : Nat, 2 * (a * factor) < b * factor ↔ 2 * a < b := fun a b => by
    rw [← Nat.mul_assoc, Nat.mul_lt_mul_right hf]
  have hgt : ∀ a b : Nat, b * factor < 2 * (a * factor) ↔ b < 2 * a := fun a b => by
    rw [← Nat.mul_assoc, Nat.mul_lt_mul_right hf]
  simp only [roundDiv, Nat.mul_div_mul_right num den hf, Nat.mul_mod_mul_right, hlt, hgt]

/-- An integer of 64 bits without a sign that is too great for one with a sign. -/
structure IsLarge (n : Nat) : Prop where
  le : 2 ^ 63 ≤ n
  lt : n < 2 ^ 64

/-- The significand of the double nearest to a large integer, one of which is worth `2 ^ 11`. -/
def largeSignificand (n : Nat) : Nat := roundDiv n (2 ^ 11)

variable {n : Nat}

/-- A significand of a double from `2 ^ 63` to `2 ^ 64`. That of `2 ^ 64` would be carried. -/
structure IsLargeSignificand (m : Nat) : Prop where
  ge : 2 ^ 52 ≤ m
  le : m ≤ 2 ^ 53

theorem IsLarge.significand (h : IsLarge n) : IsLargeSignificand (largeSignificand n) := by
  have hlow := le_roundDiv n (2 ^ 11)
  have hhigh := roundDiv_le n (2 ^ 11)
  have hle := h.le
  have hlt := h.lt
  unfold largeSignificand
  constructor <;> omega

/-- A large integer and its significand are at most half a step apart, and so far only if the
significand is even. -/
theorem largeSignificand_spec (n : Nat) :
    2 ^ 11 * largeSignificand n ≤ n + 2 ^ 10 ∧ n ≤ 2 ^ 11 * largeSignificand n + 2 ^ 10 ∧
      (largeSignificand n % 2 = 1 →
        2 ^ 11 * largeSignificand n < n + 2 ^ 10 ∧ n < 2 ^ 11 * largeSignificand n + 2 ^ 10) := by
  unfold largeSignificand roundDiv
  simp only
  split
  · omega
  · split
    · omega
    · split <;> omega

/-- The significand is the only one that lies so. -/
theorem largeSignificand_eq {m : Nat} (hl : 2 ^ 11 * m ≤ n + 2 ^ 10)
    (hg : n ≤ 2 ^ 11 * m + 2 ^ 10)
    (hodd : m % 2 = 1 → 2 ^ 11 * m < n + 2 ^ 10 ∧ n < 2 ^ 11 * m + 2 ^ 10) :
    largeSignificand n = m := by
  have hn := largeSignificand_spec n
  omega

theorem IsLarge.ofInt_eq (h : IsLarge n) :
    ofInt n = ofFields false (1085 * 2 ^ 52 + largeSignificand n) := by
  have hfinite : 1085 * 2 ^ 52 + largeSignificand n < 2047 * 2 ^ 52 := by
    have := h.significand.le
    omega
  have hpos : n ≠ 0 := Nat.ne_of_gt (Nat.lt_of_lt_of_le (by decide) h.le)
  have hshift : leadingBit (n * unitsPerOne) 1 - 52 = 11 + 1074 := by
    rw [leadingBit_one (Nat.mul_ne_zero hpos unitsPerOne_pos.ne'), log2_mul_unitsPerOne hpos,
      (Nat.log2_eq_iff hpos).mpr ⟨h.le, h.lt⟩]
  have hround (k : Nat) : roundDiv (n * unitsPerOne) (1 * 2 ^ (k + 1074)) = roundDiv n (2 ^ k) := by
    rw [Nat.one_mul, two_pow_add_1074]
    exact roundDiv_mul_right unitsPerOne_pos n (2 ^ k)
  rw [ofInt, ofRatio, ofUnits]
  simp only [Int.natAbs_natCast, decide_eq_false (Int.not_lt.mpr (Int.natCast_nonneg n))]
  rw [hshift, hround 11, ← largeSignificand, if_pos hfinite]

theorem IsLarge.magnitude_ofInt (h : IsLarge n) :
    (ofInt n).magnitude = 2 ^ 11 * largeSignificand n * unitsPerOne := by
  rw [h.ofInt_eq]
  exact magnitude_ofFields_add false (k := 11) (by decide) h.significand.le h.significand.ge

theorem IsLarge.isFinite_ofInt (h : IsLarge n) : (ofInt n).isFinite = true := by
  have := h.lt
  exact Binary64.isFinite_ofInt (by omega)

/-- The double nearest to a large integer is a large multiple of `2 ^ 11`. -/
theorem IsLarge.exact_ofInt (h : IsLarge n) :
    (ofInt n).exact = (2 ^ 11 * largeSignificand n : Int) := by
  have hlt : 1085 * 2 ^ 52 + largeSignificand n < 2 ^ 63 := by
    have := h.significand.le
    omega
  rw [exact_eq_intCast_iff, signedMagnitude, h.magnitude_ofInt, h.ofInt_eq,
    negative_ofFields false hlt, if_neg Bool.false_ne_true, Int.natCast_mul, Int.natCast_mul]
  rfl

end BracketQuery.Binary64
