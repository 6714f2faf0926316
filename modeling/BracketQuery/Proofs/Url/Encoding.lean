import BracketQuery.Proofs.Percent
import BracketQuery.Url.Parser

/-!
What the parts of a URL escape does not change the bytes that a text stands for, since no part
escapes a percent sign or a hexadecimal digit. To leave out a tab or a line break does change them.
-/

namespace BracketQuery.Url

open Percent (escapeByte hexDigit percentDecode_cons)
open Text (isHexDigit)

/-! ## Characters -/

/-- What is true of the characters up to a place can be looked up. -/
theorem forall_ascii {p : Char → Prop} (h : ∀ n < 128, p (Char.ofNat n)) :
    ∀ c : Char, c.toNat < 128 → p c := by
  intro c hc
  have hp := h c.toNat hc
  rwa [Char.ofNat_toNat] at hp

theorem toNat_lt_of_isHexDigit {c : Char} (h : isHexDigit c = true) : c.toNat < 128 := by
  have hle {a b : Char} (h : a ≤ b) : a.toNat ≤ b.toNat := h
  unfold isHexDigit Text.hexValue? at h
  split at h
  · rename_i hd
    exact Nat.lt_of_le_of_lt (hle hd.2) (by decide)
  · split at h
    · rename_i hd
      exact Nat.lt_of_le_of_lt (hle hd.2) (by decide)
    · split at h
      · rename_i hd
        exact Nat.lt_of_le_of_lt (hle hd.2) (by decide)
      · cases h

/-- No part escapes a percent sign or a hexadecimal digit. -/
theorem encodeChar_of_isHexDigit (part : Part) {c : Char} (h : isHexDigit c = true) :
    part.encodeChar c = [c] := by
  have hc : ∀ c : Char, c.toNat < 128 → isHexDigit c = true → part.encodeChar c = [c] := by
    refine forall_ascii ?_
    cases part <;> decide +kernel
  exact hc c (toNat_lt_of_isHexDigit h) h

@[simp] theorem encodeChar_percent (part : Part) : part.encodeChar '%' = ['%'] := by
  cases part <;> decide

theorem isHexDigit_hexDigit {n : Nat} (h : n < 16) : isHexDigit (hexDigit n) = true := by
  rw [isHexDigit, Percent.hexValue?_hexDigit h]
  rfl

theorem mem_escapeByte {byte : UInt8} {c : Char} (h : c ∈ escapeByte byte) :
    c = '%' ∨ isHexDigit c = true := by
  have hlt := byte.toNat_lt
  simp only [escapeByte, List.mem_cons, List.not_mem_nil, or_false] at h
  rcases h with rfl | rfl | rfl
  · exact .inl rfl
  · exact .inr (isHexDigit_hexDigit (by omega))
  · exact .inr (isHexDigit_hexDigit (by omega))

/-- A part writes a character as it is, or with percent signs and hexadecimal digits. -/
theorem mem_encodeChar {part : Part} {c x : Char} (h : x ∈ part.encodeChar c) :
    part.encodeChar c = [c] ∧ x = c ∨ x = '%' ∨ isHexDigit x = true := by
  unfold Part.encodeChar at h ⊢
  split at h
  · obtain ⟨byte, _, hx⟩ := List.mem_flatMap.mp h
    exact .inr (mem_escapeByte hx)
  · rename_i hc
    rw [if_neg hc]
    exact .inl ⟨rfl, List.mem_singleton.mp h⟩

/-- What a part has written it writes as it is. -/
theorem encodeChar_of_mem_encodeChar {part : Part} {c x : Char} (h : x ∈ part.encodeChar c) :
    part.encodeChar x = [x] := by
  rcases mem_encodeChar h with ⟨he, rfl⟩ | rfl | hx
  · exact he
  · exact encodeChar_percent part
  · exact encodeChar_of_isHexDigit part hx

/-- A part writes no tab and no line break. -/
theorem isTabOrNewline_of_mem_encodeChar {part : Part} {c x : Char}
    (h : x ∈ part.encodeChar c) : isTabOrNewline x = false := by
  have he := encodeChar_of_mem_encodeChar h
  refine Bool.eq_false_iff.mpr fun ht => ?_
  simp only [isTabOrNewline, Bool.or_eq_true, beq_iff_eq] at ht
  rcases ht with (rfl | rfl) | rfl <;> exact absurd he (by cases part <;> decide)

/-! ## Escapes -/

/-- Whether a text begins with two hexadecimal digits. -/
def startsWithByte : List Char → Bool
  | a :: b :: _ => isHexDigit a && isHexDigit b
  | _ => false

theorem percentDecode_percent {text : List Char} (h : startsWithByte text = false) :
    percentDecode ('%' :: text) = String.utf8EncodeChar '%' ++ percentDecode text := by
  match text with
  | [] | [_] => rfl
  | a :: b :: rest =>
      rw [percentDecode]
      cases ha : Text.hexValue? a <;> cases hb : Text.hexValue? b <;>
        simp [startsWithByte, isHexDigit, ha, hb] at h ⊢

theorem percentDecode_byte {a b : Char} (ha : isHexDigit a = true) (hb : isHexDigit b = true) :
    ∃ byte, ∀ rest, percentDecode ('%' :: a :: b :: rest) = byte :: percentDecode rest := by
  obtain ⟨high, hhigh⟩ := Option.isSome_iff_exists.mp ha
  obtain ⟨low, hlow⟩ := Option.isSome_iff_exists.mp hb
  refine ⟨UInt8.ofNat (16 * high + low), fun rest => ?_⟩
  rw [percentDecode, hhigh, hlow]

/-- A text is decoded from its front: a percent sign with two hexadecimal digits is a byte, any other
percent sign is itself, and so is any other character. -/
theorem percentDecode_induction {motive : List Char → Prop} (nil : motive [])
    (byte : ∀ a b rest, isHexDigit a = true → isHexDigit b = true → motive rest →
      motive ('%' :: a :: b :: rest))
    (percent : ∀ rest, startsWithByte rest = false → motive rest → motive ('%' :: rest))
    (plain : ∀ c rest, c ≠ '%' → motive rest → motive (c :: rest)) : ∀ text, motive text
  | [] => nil
  | c :: rest => by
      have ih := percentDecode_induction nil byte percent plain rest
      by_cases hc : c = '%'
      · subst hc
        cases hs : startsWithByte rest with
        | false => exact percent rest hs ih
        | true =>
            match rest, hs with
            | a :: b :: rest, hs =>
                obtain ⟨ha, hb⟩ := Bool.and_eq_true_iff.mp hs
                exact byte a b rest ha hb
                  (percentDecode_induction nil byte percent plain rest)
      · exact plain c rest hc ih

/-! ## What is escaped is decoded -/

theorem percentDecode_escaped (bytes : List UInt8) (rest : List Char) :
    percentDecode (bytes.flatMap escapeByte ++ rest) = bytes ++ percentDecode rest := by
  induction bytes with
  | nil => rfl
  | cons byte bytes ih =>
      rw [List.flatMap_cons, List.append_assoc, Percent.percentDecode_escapeByte, ih,
        List.cons_append]

theorem percentDecode_encodeChar (part : Part) {c : Char} (h : c ≠ '%') (rest : List Char) :
    percentDecode (part.encodeChar c ++ rest) = String.utf8EncodeChar c ++ percentDecode rest := by
  unfold Part.encodeChar
  split
  · exact percentDecode_escaped _ rest
  · exact percentDecode_cons h rest

/-- What is written of a character that is no hexadecimal digit does not begin with one. -/
theorem exists_encodeChar (part : Part) {c : Char} (h : isHexDigit c = false) :
    ∃ first rest, part.encodeChar c = first :: rest ∧ isHexDigit first = false := by
  unfold Part.encodeChar
  split
  · cases hb : String.utf8EncodeChar c with
    | nil =>
        have hl := congrArg List.length hb
        rw [String.length_utf8EncodeChar] at hl
        exact absurd hl (Nat.ne_of_gt (Char.utf8Size_pos c))
    | cons byte bytes => exact ⟨'%', _, rfl, by decide⟩
  · exact ⟨c, [], rfl, h⟩

theorem startsWithByte_flatMap (part : Part) {text : List Char}
    (h : startsWithByte text = false) :
    startsWithByte (text.flatMap part.encodeChar) = false := by
  match text with
  | [] => rfl
  | a :: rest =>
      cases ha : isHexDigit a with
      | false =>
          obtain ⟨first, more, he, hf⟩ := exists_encodeChar part ha
          rw [List.flatMap_cons, he]
          cases hr : more ++ rest.flatMap part.encodeChar <;> simp [startsWithByte, hr, hf]
      | true =>
          rw [List.flatMap_cons, encodeChar_of_isHexDigit part ha]
          match rest with
          | [] => rfl
          | b :: rest =>
              have hb : isHexDigit b = false := by simpa [startsWithByte, ha] using h
              obtain ⟨first, more, he, hf⟩ := exists_encodeChar part hb
              simp [startsWithByte, he, hf]

/-- What a part escapes stands for the same bytes. -/
theorem percentDecode_flatMap_encodeChar (part : Part) (text : List Char) :
    percentDecode (text.flatMap part.encodeChar) = percentDecode text := by
  induction text using percentDecode_induction with
  | nil => rfl
  | byte a b rest ha hb ih =>
      obtain ⟨byte, hd⟩ := percentDecode_byte ha hb
      simp only [List.flatMap_cons, encodeChar_percent, encodeChar_of_isHexDigit part ha,
        encodeChar_of_isHexDigit part hb, List.cons_append, List.nil_append]
      rw [hd, hd, ih]
  | percent rest hs ih =>
      rw [List.flatMap_cons, encodeChar_percent, List.singleton_append,
        percentDecode_percent (startsWithByte_flatMap part hs), percentDecode_percent hs, ih]
  | plain c rest hc ih =>
      rw [List.flatMap_cons, percentDecode_encodeChar part hc, percentDecode_cons hc, ih]

/-! ## What is left out is missing -/

theorem ne_percent_of_isHexDigit {c : Char} (h : isHexDigit c = true) : c ≠ '%' := by
  rintro rfl
  exact absurd h (by decide)

theorem not_isTabOrNewline_of_isHexDigit {c : Char} (h : isHexDigit c = true) :
    isTabOrNewline c = false := by
  have hc : c ∈ Part.query.encodeChar c := by
    rw [encodeChar_of_isHexDigit .query h]
    exact List.mem_cons_self
  exact isTabOrNewline_of_mem_encodeChar hc

theorem length_percentDecode_percent_le (text : List Char) :
    (percentDecode ('%' :: text)).length ≤ 1 + (percentDecode text).length := by
  cases hs : startsWithByte text with
  | false =>
      rw [percentDecode_percent hs, List.length_append]
      exact Nat.le_refl _
  | true =>
      match text, hs with
      | a :: b :: rest, hs =>
          obtain ⟨ha, hb⟩ := Bool.and_eq_true_iff.mp hs
          obtain ⟨byte, hd⟩ := percentDecode_byte ha hb
          rw [hd, percentDecode_cons (ne_percent_of_isHexDigit ha),
            percentDecode_cons (ne_percent_of_isHexDigit hb)]
          simp only [List.length_cons, List.length_append]
          omega

/-- Without a tab or a line break a text stands for fewer bytes, even where the percent sign before
it comes to stand before hexadecimal digits. -/
theorem length_percentDecode_filter (text : List Char) :
    (percentDecode (text.filter (!isTabOrNewline ·))).length + text.countP isTabOrNewline ≤
      (percentDecode text).length := by
  have hpercent : isTabOrNewline '%' = false := by decide
  induction text using percentDecode_induction with
  | nil => simp [percentDecode]
  | byte a b rest ha hb ih =>
      obtain ⟨byte, hd⟩ := percentDecode_byte ha hb
      have hta := not_isTabOrNewline_of_isHexDigit ha
      have htb := not_isTabOrNewline_of_isHexDigit hb
      simp only [List.filter_cons, List.countP_cons, hpercent, hta, htb, Bool.not_false, hd,
        List.length_cons, ↓reduceIte, Bool.false_eq_true] at ih ⊢
      omega
  | percent rest hs ih =>
      have hle := length_percentDecode_percent_le (rest.filter (!isTabOrNewline ·))
      rw [percentDecode_percent hs, List.length_append]
      have hone : (String.utf8EncodeChar '%').length = 1 := rfl
      simp only [List.filter_cons, List.countP_cons, hpercent, Bool.not_false, ↓reduceIte,
        Bool.false_eq_true] at ih ⊢
      omega
  | plain c rest hc ih =>
      have hpos := Char.utf8Size_pos c
      rw [percentDecode_cons hc, List.length_append, String.length_utf8EncodeChar]
      cases ht : isTabOrNewline c with
      | true =>
          simp only [List.filter_cons, List.countP_cons, ht, Bool.not_true, ↓reduceIte,
            Bool.false_eq_true] at ih ⊢
          omega
      | false =>
          simp only [List.filter_cons, List.countP_cons, ht, Bool.not_false, ↓reduceIte,
            Bool.false_eq_true, percentDecode_cons hc, List.length_append,
            String.length_utf8EncodeChar] at ih ⊢
          omega

/-- Tabs and line breaks can be left out of a text for the same bytes only if there are none. -/
theorem percentDecode_filter_eq_iff {text : List Char} :
    percentDecode (text.filter (!isTabOrNewline ·)) = percentDecode text ↔
      ∀ c ∈ text, isTabOrNewline c = false := by
  constructor
  · intro h
    have hl := length_percentDecode_filter text
    rw [h] at hl
    have hzero : text.countP isTabOrNewline = 0 := by omega
    exact fun c hc => Bool.eq_false_iff.mpr (List.countP_eq_zero.mp hzero c hc)
  · intro h
    have hf : text.filter (!isTabOrNewline ·) = text :=
      List.filter_eq_self.mpr fun c hc => by simp [h c hc]
    rw [hf]

end BracketQuery.Url
