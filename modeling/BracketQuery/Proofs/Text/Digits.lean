import BracketQuery.Arithmetic
import BracketQuery.Text.Blank
import BracketQuery.Text.Digits
import Mathlib.Data.List.Lex
import Mathlib.Data.Char
import Mathlib.Tactic.Ring

/-!
Numbers written in equally many ASCII digits are in the order of their texts. Decimal digits, of
whatever script, are no white space.
-/

namespace BracketQuery.Text

variable {digits others : List Char}

/-! ## Lexicographic order -/

theorem append_lt_append_iff {front rear : List Char} (h : digits.length = others.length) :
    digits ++ front < others ++ rear ↔ digits < others ∨ digits = others ∧ front < rear := by
  induction digits generalizing others with
  | nil =>
      have ho : others = [] := List.length_eq_zero_iff.mp h.symm
      subst ho
      simp
  | cons c digits ih =>
      cases others with
      | nil => simp at h
      | cons d others =>
          have hl : digits.length = others.length := Nat.succ.inj h
          simp only [List.cons_append, List.cons_lt_cons_iff, ih hl, List.cons.injEq]
          tauto

/-! ## ASCII digits -/

theorem isDigit_iff {c : Char} : c.isDigit = true ↔ 48 ≤ c.toNat ∧ c.toNat ≤ 57 := by
  rw [Char.isDigit, Bool.and_eq_true, decide_eq_true_iff, decide_eq_true_iff]
  rfl

theorem foldl_pushDigit (digits : List Char) :
    ∀ n, digits.foldl pushDigit n = n * 10 ^ digits.length + decimalNumber digits := by
  induction digits with
  | nil => intro n; simp [decimalNumber]
  | cons c digits ih =>
      intro n
      rw [decimalNumber, List.foldl_cons, List.foldl_cons, ih, ih (pushDigit 0 c)]
      simp only [pushDigit, List.length_cons, Nat.pow_succ]
      ring

theorem decimalNumber_cons (c : Char) (digits : List Char) :
    decimalNumber (c :: digits) = (c.toNat - 48) * 10 ^ digits.length + decimalNumber digits := by
  rw [decimalNumber, List.foldl_cons, foldl_pushDigit]
  simp [pushDigit]

theorem decimalNumber_lt (h : ∀ c ∈ digits, c.isDigit = true) :
    decimalNumber digits < 10 ^ digits.length := by
  induction digits with
  | nil => decide
  | cons c digits ih =>
      obtain ⟨hc, hd⟩ := List.forall_mem_cons.mp h
      have hle : c.toNat - 48 ≤ 9 := by
        have hb := isDigit_iff.mp hc
        omega
      have hm := Nat.mul_le_mul_right (10 ^ digits.length) hle
      have hlt := ih hd
      rw [decimalNumber_cons, List.length_cons, Nat.pow_succ]
      omega

/-- The leading digit decides, and where it is the same, what follows. -/
theorem leading_lt_iff {a b m n unit : Nat} (hm : m < unit) (hn : n < unit) :
    a * unit + m < b * unit + n ↔ a < b ∨ a = b ∧ m < n := by
  rcases Nat.lt_trichotomy a b with h | rfl | h
  · have hle := Nat.mul_le_mul_right unit (Nat.succ_le_of_lt h)
    rw [Nat.succ_mul] at hle
    simp only [h, true_or, iff_true]
    omega
  · simp
  · have hle := Nat.mul_le_mul_right unit (Nat.succ_le_of_lt h)
    rw [Nat.succ_mul] at hle
    omega

theorem lt_iff_decimalNumber_lt (hl : digits.length = others.length)
    (hd : ∀ c ∈ digits, c.isDigit = true) (ho : ∀ c ∈ others, c.isDigit = true) :
    digits < others ↔ decimalNumber digits < decimalNumber others := by
  induction digits generalizing others with
  | nil =>
      have hn : others = [] := List.length_eq_zero_iff.mp hl.symm
      subst hn
      simp
  | cons c digits ih =>
      cases others with
      | nil => simp at hl
      | cons d others =>
          obtain ⟨hc, hd⟩ := List.forall_mem_cons.mp hd
          obtain ⟨he, ho⟩ := List.forall_mem_cons.mp ho
          have hl : digits.length = others.length := Nat.succ.inj hl
          have hlt := decimalNumber_lt hd
          have hlo := decimalNumber_lt ho
          rw [← hl] at hlo
          have hcb := isDigit_iff.mp hc
          have heb := isDigit_iff.mp he
          have hval : c < d ↔ c.toNat - 48 < d.toNat - 48 := by
            change c.toNat < d.toNat ↔ _
            omega
          have heq : c = d ↔ c.toNat - 48 = d.toNat - 48 := by
            rw [← Char.toNat_inj]
            omega
          rw [List.cons_lt_cons_iff, decimalNumber_cons, decimalNumber_cons, ← hl,
            leading_lt_iff hlt hlo, ih hl hd ho, hval, heq]

theorem eq_iff_decimalNumber_eq (hl : digits.length = others.length)
    (hd : ∀ c ∈ digits, c.isDigit = true) (ho : ∀ c ∈ others, c.isDigit = true) :
    digits = others ↔ decimalNumber digits = decimalNumber others := by
  constructor
  · exact congrArg decimalNumber
  · intro he
    rcases lt_trichotomy digits others with h | h | h
    · exact absurd he ((lt_iff_decimalNumber_lt hl hd ho).mp h).ne
    · exact h
    · exact absurd he ((lt_iff_decimalNumber_lt hl.symm ho hd).mp h).ne'

/-! ## Decimal digits -/

theorem decimalZeros_isApart :
    decimalZeros.all (fun first => blankRanges.all fun range =>
      decide (range.2 < first) || decide (first + 9 < range.1)) = true := by
  decide

theorem isDecimalDigit_of_isDigit {c : Char} (h : c.isDigit = true) : isDecimalDigit c = true := by
  have hb := isDigit_iff.mp h
  rw [isDecimalDigit, List.any_eq_true]
  refine ⟨0x30, by decide, ?_⟩
  simp
  omega

theorem isBlank_of_isDecimalDigit {c : Char} (h : isDecimalDigit c = true) : isBlank c = false := by
  rw [isDecimalDigit, List.any_eq_true] at h
  obtain ⟨first, hf, hc⟩ := h
  have ha := List.all_eq_true.mp (List.all_eq_true.mp decimalZeros_isApart first hf)
  rw [isBlank, inRanges, List.any_eq_false]
  intro range hr
  have hd := ha range hr
  simp at hc hd ⊢
  omega

end BracketQuery.Text
