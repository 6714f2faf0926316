import BracketQuery.Proofs.Binary64.LargeIntegers
import BracketQuery.Proofs.Document.Leaves
import BracketQuery.Proofs.Wire.QueryString

/-!
The integers of conditions. Below `2 ^ 63` they are sent digit for digit. From `2 ^ 63` on the
double nearest to an integer is sent in its place, with the fewest digits that identify it, so that
only integers that happen to be kept are sent digit for digit, and those with one nearest double are
not told apart.
-/

namespace BracketQuery

/-! ## Texts of integers -/

theorem toString_negSucc (n : Nat) : toString (Int.negSucc n) = "-" ++ toString (n + 1) := rfl

theorem toString_natCast_ne (m n : Nat) : toString (m : Int) ≠ toString (Int.negSucc n) := by
  intro he
  have hminus : '-' ∈ (toString m).toList := by
    rw [show toString m = toString (Int.negSucc n) from he, toString_negSucc, String.toList_append]
    exact List.mem_append_left _ (List.mem_singleton.mpr rfl)
  rw [Nat.toString_eq_ofList_toDigits, String.toList_ofList] at hminus
  exact absurd (Nat.isDigit_of_mem_toDigits (by decide) (by decide) hminus) (by decide)

theorem toString_int_inj {m n : Int} (h : toString m = toString n) : m = n := by
  cases m with
  | ofNat m =>
      cases n with
      | ofNat n => rw [toString_inj h]
      | negSucc n => exact absurd h (toString_natCast_ne m n)
  | negSucc m =>
      cases n with
      | ofNat n => exact absurd h.symm (toString_natCast_ne n m)
      | negSucc n =>
          rw [toString_negSucc, toString_negSucc, String.append_right_inj] at h
          rw [Nat.succ.inj (toString_inj h)]

namespace Binary64.IsLarge

variable {n k : Nat}

/-- A large integer is sent digit for digit exactly if it is kept. -/
theorem wireText_eq_iff (h : IsLarge n) : (ofInt n).wireText = toString (n : Int) ↔ IsKept n := by
  obtain ⟨w, hw, he⟩ := h.exists_isWritten
  rw [he, ← h.isWritten_self_iff]
  constructor
  · intro ht
    exact toString_inj ht ▸ hw
  · intro hn
    rw [hw.unique h.significand hn]
    rfl

/-- The text of a large integer tells its double. -/
theorem wireText_inj (h : IsLarge n) (hk : IsLarge k) :
    (ofInt k).wireText = (ofInt n).wireText ↔ ofInt k = ofInt n := by
  refine ⟨fun ht => ?_, congrArg wireText⟩
  obtain ⟨w, hw, he⟩ := h.exists_isWritten
  obtain ⟨w', hw', he'⟩ := hk.exists_isWritten
  rw [he, he'] at ht
  obtain rfl := toString_inj ht
  exact (h.ofInt_inj hk).mpr (hk.significand.eq_of_contains h.significand hw'.contains hw.contains)

/-- The text of a large integer is not that of an integer below `2 ^ 63`. -/
theorem wireText_ne (h : IsLarge n) {k : Int} (hk : k < 2 ^ 63) :
    (ofInt n).wireText ≠ toString k := by
  obtain ⟨w, hw, he⟩ := h.exists_isWritten
  intro ht
  have hw := hw.le h.significand
  have hk : (w : Int) = k := toString_int_inj (he.symm.trans ht)
  omega

end Binary64.IsLarge

/-! ## Integers as single values -/

namespace Scalar

open Binary64

/-- The text that an integer of a document is sent as. -/
def integerText (n : Int) : String := (ofNumber (.integer n)).wireText

theorem integerText_of_lt {n : Int} (hl : -2 ^ 63 ≤ n) (hg : n < 2 ^ 63) :
    integerText n = toString n := by
  have hi : Integer.toInt64? n = some (Int64.ofInt n) := by
    rw [Integer.toInt64?, if_pos ⟨hl, hg⟩]
  rw [integerText, ofNumber, hi, wireText, Integer.text, Int64.toInt_ofInt_of_le hl hg]

theorem integerText_of_isLarge {n : Nat} (h : IsLarge n) :
    integerText n = (ofInt n).wireText := by
  have hle := h.le
  have hi : Integer.toInt64? n = none := by
    rw [Integer.toInt64?, if_neg (by omega)]
  rw [integerText, ofNumber, hi, wireText]

/-- An integer that can be held is below `2 ^ 63` or large. -/
theorem lt_or_exists_isLarge {n : Int} (h : (Json.Number.integer n).IsReadable) :
    n < 2 ^ 63 ∨ ∃ k : Nat, n = k ∧ IsLarge k := by
  obtain ⟨hl, hg⟩ := h
  by_cases hn : n < 2 ^ 63
  · exact .inl hn
  · obtain ⟨k, rfl⟩ := Int.eq_ofNat_of_zero_le (show 0 ≤ n by omega)
    exact .inr ⟨k, rfl, by omega, by omega⟩

/-- An integer is sent digit for digit exactly if it is below `2 ^ 63` or kept. -/
theorem integerText_eq_iff {n : Int} (h : (Json.Number.integer n).IsReadable) :
    integerText n = toString n ↔ n < 2 ^ 63 ∨ IsKept n.toNat := by
  rcases lt_or_exists_isLarge h with hn | ⟨k, rfl, hk⟩
  · exact iff_of_true (integerText_of_lt h.1 hn) (.inl hn)
  · have hle := hk.le
    rw [integerText_of_isLarge hk, hk.wireText_eq_iff, Int.toNat_natCast,
      or_iff_right (by omega : ¬ (k : Int) < 2 ^ 63)]

/-- Two integers are sent as the same text exactly if they are equal, or both from `2 ^ 63` on and
with the same nearest double. -/
theorem integerText_inj {m n : Int} (hm : (Json.Number.integer m).IsReadable)
    (hn : (Json.Number.integer n).IsReadable) :
    integerText m = integerText n ↔
      m = n ∨ 2 ^ 63 ≤ m ∧ 2 ^ 63 ≤ n ∧ ofInt m = ofInt n := by
  rcases lt_or_exists_isLarge hm with hm' | ⟨j, rfl, hj⟩ <;>
    rcases lt_or_exists_isLarge hn with hn' | ⟨k, rfl, hk⟩
  · rw [integerText_of_lt hm.1 hm', integerText_of_lt hn.1 hn', or_iff_left (by omega)]
    exact ⟨toString_int_inj, congrArg toString⟩
  · have hle := hk.le
    rw [integerText_of_lt hm.1 hm', integerText_of_isLarge hk]
    exact iff_of_false (hk.wireText_ne hm').symm (by omega)
  · have hle := hj.le
    rw [integerText_of_lt hn.1 hn', integerText_of_isLarge hj]
    exact iff_of_false (hj.wireText_ne hn') (by omega)
  · have hle := hj.le
    have hle' := hk.le
    rw [integerText_of_isLarge hj, integerText_of_isLarge hk, hk.wireText_inj hj]
    constructor
    · exact fun he => .inr ⟨by omega, by omega, he⟩
    · rintro (he | ⟨_, _, he⟩)
      · rw [he]
      · exact he

end Scalar

/-! ## Query strings with a leaf -/

theorem intercalate_append_cons {α : Type} (separator : List α) (before after : List (List α)) :
    ∃ head tail, ∀ piece,
      separator.intercalate (before ++ piece :: after) = head ++ piece ++ tail := by
  induction before with
  | nil =>
      cases after with
      | nil => exact ⟨[], [], fun piece => by simp⟩
      | cons next rest =>
          exact ⟨[], separator ++ separator.intercalate (next :: rest), fun piece => by simp⟩
  | cons first rest ih =>
      obtain ⟨head, tail, h⟩ := ih
      refine ⟨first ++ separator ++ head, tail, fun piece => ?_⟩
      rw [List.cons_append, List.intercalate_cons_of_ne_nil (by simp), h]
      simp only [List.append_assoc]

theorem Percent.encode_inj {value value' : String} (h : encode value = encode value') :
    value = value' := by
  have hd := congrArg (fun text => decode? text.toList) h
  simp only [decode?_encode, Option.some.injEq] at hd
  exact hd

/-- A query string tells the value of each parameter, whatever the others are. -/
theorem Params.queryString_value_inj (before after : Params) (category : Category)
    (key value value' : String) :
    (before ++ ⟨category, key, value⟩ :: after).queryString =
        (before ++ ⟨category, key, value'⟩ :: after).queryString ↔ value = value' := by
  refine ⟨fun h => ?_, fun h => by rw [h]⟩
  obtain ⟨head, tail, hq⟩ :=
    intercalate_append_cons ['&'] (before.map Param.piece) (after.map Param.piece)
  have hl := congrArg String.toList h
  rw [toList_queryString, toList_queryString, List.map_append, List.map_append, List.map_cons,
    List.map_cons, hq, hq, List.append_cancel_right_eq, List.append_cancel_left_eq] at hl
  simp only [Param.piece, List.append_cancel_left_eq, List.cons.injEq, true_and,
    String.toList_inj] at hl
  exact Percent.encode_inj hl

/-! ## Documents with an integer -/

namespace Intent

/-- The intent of a document with an integer at a place. -/
def ofInteger (place : LeafPlace) (n : Int) : Intent :=
  (ofMembers (place.members (.number (.integer n)))).value

/-- Wherever conditions take single values, an integer of a document is sent under the path to its
place, digit for digit exactly if it is below `2 ^ 63` or kept; and two documents that differ in
such an integer only compile to the same query exactly if both integers are from `2 ^ 63` on and
have the same nearest double. -/
theorem integer_exact_iff {place : LeafPlace} (h : place.IsTaken) :
    (∃ before after, ∀ n, (Json.Number.integer n).IsReadable → ∃ text,
      (ofInteger place n).lower = before ++ ⟨place.category, place.path.text, text⟩ :: after ∧
      (text = toString n ↔ n < 2 ^ 63 ∨ Binary64.IsKept n.toNat)) ∧
    ∀ m n, (Json.Number.integer m).IsReadable → (Json.Number.integer n).IsReadable →
      ((ofInteger place m).compile = (ofInteger place n).compile ↔
        m = n ∨ 2 ^ 63 ≤ m ∧ 2 ^ 63 ≤ n ∧ Binary64.ofInt m = Binary64.ofInt n) := by
  obtain ⟨before, after, hsent⟩ := place.sendsLeaf h
  have hlower (n : Int) : (ofInteger place n).lower =
      before ++ ⟨place.category, place.path.text, Scalar.integerText n⟩ :: after :=
    hsent _ _ rfl
  refine ⟨⟨before, after, fun n hn => ⟨_, hlower n, Scalar.integerText_eq_iff hn⟩⟩,
    fun m n hm hn => ?_⟩
  rw [compile, compile, hlower, hlower, Params.queryString_value_inj, Scalar.integerText_inj hm hn]

/-- A place in a list of a comparison in a group: `10 ^ 19` is kept, the greatest 64-bit integer is
sent as it is, and the two after it are not told apart. -/
theorem integer_in_group_exact :
    let comparisons : MemberSlot := ⟨⟨[("$gt", .null)], [("note", .null)]⟩, "$in"⟩
    let place : LeafPlace := .filters ⟨[("sort", .string "id")], []⟩ ⟨⟨⟨[], []⟩, "$or"⟩,
      .grouped ⟨[.null], []⟩ ⟨⟨[], [("name", .string "x")]⟩, "total"⟩
        (.operandElement comparisons ⟨[.string "a", .null], [.boolean true]⟩)⟩
    place.IsTaken ∧ place.path.text = "filters[$or][0][total][$in][1]" ∧
      ⟨.filters, place.path.text, "10000000000000000000"⟩ ∈ (ofInteger place (10 ^ 19)).lower ∧
      (ofInteger place (2 ^ 63 - 1)).compile ≠ (ofInteger place (2 ^ 63)).compile ∧
      (ofInteger place (2 ^ 63)).compile = (ofInteger place (2 ^ 63 + 1)).compile := by
  intro comparisons place
  have ho : isOperatorMap (comparisons.members .null) = true := by decide +kernel
  have h : place.IsTaken := ⟨by decide +kernel, .inr rfl, ho⟩
  obtain ⟨⟨before, after, hsent⟩, hcompile⟩ := integer_exact_iff h
  obtain ⟨text, hlower, htext⟩ := hsent (10 ^ 19) ⟨by decide, by decide⟩
  refine ⟨h, by decide +kernel, ?_, fun he => ?_, ?_⟩
  · have hkept : text = toString ((10 : Int) ^ 19) := htext.mpr (.inr (.inl (by decide)))
    rw [hlower, hkept]
    exact List.mem_append_right before List.mem_cons_self
  · have hsame := (hcompile _ _ ⟨by decide, by decide⟩ ⟨by decide, by decide⟩).mp he
    omega
  · exact (hcompile _ _ ⟨by decide, by decide⟩ ⟨by decide, by decide⟩).mpr
      (.inr ⟨by decide, by decide, by decide +kernel⟩)

/-- An identifier from `2 ^ 63` on is sent as another one, and so is the one before it. -/
theorem large_identifier_changed :
    let identifier : Int := 9223372036854775809
    let intent (n : Int) := (ofMembers [("filters", .object [("id", .number (.integer n))])]).value
    (intent identifier).compile = "filters[id]=9223372036854776000" ∧
      (intent identifier).compile ≠ "filters[id]=" ++ toString identifier ∧
      (intent (identifier - 1)).compile = (intent identifier).compile := by
  decide +kernel

end Intent

end BracketQuery
