import Mathlib.Data.List.Infix
import BracketQuery.Proofs.Percent

/-!
The marks of an escaped text put back in two other ways: slice by slice, three bytes at each percent
sign, and not at all where no mark is escaped. Both give the value as it is sent, so every slice can
be taken, and what is sent is the value escaped byte by byte.
-/

namespace BracketQuery.Percent

/-- The characters that the first `n` bytes of a text hold and the text after them, if these bytes
are whole characters. -/
def splitBytes? : Nat → List Char → Option (List Char × List Char)
  | 0, text => some ([], text)
  | _ + 1, [] => none
  | n + 1, c :: rest =>
    if c.utf8Size ≤ n + 1 then
      (splitBytes? (n + 1 - c.utf8Size) rest).map fun (taken, left) => (c :: taken, left)
    else none

/-- The escapes that are not kept, with the marks that they stand for. -/
def escapedMarks : List (List Char × Char) :=
  [(['%', '2', '1'], '!'), (['%', '2', '7'], '\x27'), (['%', '2', '8'], '('),
    (['%', '2', '9'], ')'), (['%', '2', 'A'], '*')]

/-- A slice as it is sent: the mark that it stands for, or the slice. -/
def restoreSlice (slice : List Char) : List Char :=
  match escapedMarks.find? (·.1 == slice) with
  | some (_, mark) => [mark]
  | none => slice

theorem length_splitBytes? : ∀ {n : Nat} {text taken left : List Char},
    splitBytes? n text = some (taken, left) → text.length = taken.length + left.length
  | 0, _, _, _, h => by
      simp only [splitBytes?, Option.some.injEq, Prod.mk.injEq] at h
      simp [← h.1, ← h.2]
  | _ + 1, [], _, _, h => by cases h
  | n + 1, c :: rest, taken, left, h => by
      simp only [splitBytes?, Option.ite_none_right_eq_some, Option.map_eq_some_iff] at h
      obtain ⟨_, ⟨taken', left'⟩, hs, he⟩ := h
      cases he
      have hl := length_splitBytes? hs
      simp only [List.length_cons]
      omega

theorem length_lt_of_splitBytes? {n : Nat} {text taken left : List Char} (hn : n ≠ 0)
    (h : splitBytes? n text = some (taken, left)) : left.length < text.length := by
  have hl := length_splitBytes? h
  have ht : taken ≠ [] := by
    rintro rfl
    match n, text, h with
    | n + 1, c :: rest, h => simp [splitBytes?] at h
  have := List.length_pos_iff.mpr ht
  omega

/-- The marks of a text put back from percent sign to percent sign: the text before one stays, and
the slice of three bytes that begins with it is sent as it should be. None if a slice cannot be
taken. -/
def restoreSlices? (text : List Char) : Option (List Char) :=
  let found := text.dropWhile (· != '%')
  if found = [] then some text
  else
    match _h : splitBytes? 3 found with
    | none => none
    | some (slice, rest) =>
      (restoreSlices? rest).map (text.takeWhile (· != '%') ++ restoreSlice slice ++ ·)
termination_by text.length
decreasing_by
  have hl := length_lt_of_splitBytes? (by decide) _h
  have hd := (List.dropWhile_sublist (l := text) (· != '%')).length_le
  exact Nat.lt_of_lt_of_le hl hd

/-- The marks of a text put back slice by slice if it has any, and the text itself otherwise. -/
def restoreIfMarked? (text : List Char) : Option (List Char) :=
  if ∃ m ∈ escapedMarks, m.1 <:+: text then restoreSlices? text else some text

/-! ## Slice by slice -/

theorem restoreSlices?_eq (text : List Char) :
    restoreSlices? text =
      if text.dropWhile (· != '%') = [] then some text
      else
        match splitBytes? 3 (text.dropWhile (· != '%')) with
        | none => none
        | some (slice, rest) =>
          (restoreSlices? rest).map (text.takeWhile (· != '%') ++ restoreSlice slice ++ ·) := by
  rw [restoreSlices?]
  split
  · rfl
  · split
    · rename_i h
      rw [h]
    · rename_i h
      rw [h]

theorem restoreSlices?_cons {c : Char} (h : c ≠ '%') (rest : List Char) :
    restoreSlices? (c :: rest) = (restoreSlices? rest).map (c :: ·) := by
  have hc : (c != '%') = true := bne_iff_ne.mpr h
  rw [restoreSlices?_eq, restoreSlices?_eq rest]
  simp only [List.dropWhile_cons, List.takeWhile_cons, hc, ↓reduceIte]
  split
  · rfl
  · split
    · rfl
    · simp [Function.comp_def]

/-- A slice at the front of a text whose characters are one byte each. -/
theorem restoreSlices?_slice {a b : Char} (ha : a.utf8Size = 1) (hb : b.utf8Size = 1)
    (rest : List Char) :
    restoreSlices? ('%' :: a :: b :: rest) =
      (restoreSlices? rest).map (restoreSlice ['%', a, b] ++ ·) := by
  have hp : '%'.utf8Size = 1 := by decide
  have hs : splitBytes? 3 ('%' :: a :: b :: rest) = some (['%', a, b], rest) := by
    simp [splitBytes?, hp, ha, hb]
  rw [restoreSlices?_eq]
  simp [hs]

theorem utf8Size_hexDigit : ∀ byte : UInt8,
    (hexDigit (byte.toNat / 16)).utf8Size = 1 ∧ (hexDigit (byte.toNat % 16)).utf8Size = 1 :=
  forall_byte (by decide +kernel)

theorem restoreSlice_escapeByte : ∀ byte : UInt8, isUnreserved byte = false →
    restoreSlice (escapeByte byte) = sendByte byte :=
  forall_byte (by decide +kernel)

theorem restoreSlices?_encodeByte (byte : UInt8) (rest : List Char) :
    restoreSlices? (encodeByte byte ++ rest) = (restoreSlices? rest).map (sendByte byte ++ ·) := by
  unfold encodeByte
  cases hu : isUnreserved byte with
  | true =>
      have hc := isComponent_of_isUnreserved byte hu
      have hne := (utf8EncodeChar_of_isComponent byte hc).2
      simpa [sendByte, hc] using restoreSlices?_cons hne rest
  | false =>
      obtain ⟨ha, hb⟩ := utf8Size_hexDigit byte
      rw [← restoreSlice_escapeByte byte hu]
      exact restoreSlices?_slice ha hb rest

/-- In an escaped text every slice can be taken, and what comes of the slices is what comes of the
bytes. -/
theorem restoreSlices?_flatMap (bytes : List UInt8) :
    restoreSlices? (bytes.flatMap encodeByte) = some (bytes.flatMap sendByte) := by
  induction bytes with
  | nil => simp [restoreSlices?_eq]
  | cons byte rest ih =>
      rw [List.flatMap_cons, restoreSlices?_encodeByte, ih]
      rfl

/-! ## Texts without escaped marks -/

theorem encodeByte_eq_or_mem : ∀ byte : UInt8,
    encodeByte byte = sendByte byte ∨ ∃ m ∈ escapedMarks, m.1 = encodeByte byte :=
  forall_byte (by decide +kernel)

theorem flatMap_encodeByte_of_unmarked {bytes : List UInt8}
    (h : ∀ m ∈ escapedMarks, ¬ m.1 <:+: bytes.flatMap encodeByte) :
    bytes.flatMap encodeByte = bytes.flatMap sendByte := by
  induction bytes with
  | nil => rfl
  | cons byte rest ih =>
      simp only [List.flatMap_cons] at h ⊢
      have hr : rest.flatMap encodeByte = rest.flatMap sendByte := by
        refine ih fun m hm => fun hi => h m hm ?_
        exact hi.trans ⟨encodeByte byte, [], by simp⟩
      rcases encodeByte_eq_or_mem byte with hb | ⟨m, hm, hb⟩
      · rw [hb, hr]
      · exact absurd ⟨[], rest.flatMap encodeByte, by rw [hb, List.nil_append]⟩ (h m hm)

/-! ## Values -/

theorem escape_eq_flatMap (value : String) :
    escape value.toList = value.toUTF8.data.toList.flatMap encodeByte := by
  have hv : String.ofList value.toList = value := String.ofList_toList
  have hb : value.toUTF8 = (value.toList.flatMap String.utf8EncodeChar).toByteArray :=
    (congrArg String.toByteArray hv).symm
  rw [escape, hb, List.data_toByteArray, List.toList_toArray]

theorem toList_encode_eq_flatMap (value : String) :
    (encode value).toList = value.toUTF8.data.toList.flatMap sendByte := by
  rw [encode, String.toList_ofList, escape_eq_flatMap, restoreMarks_flatMap]

theorem encode_append (value other : String) :
    encode (value ++ other) = encode value ++ encode other := by
  apply String.toList_inj.mp
  simp [toList_encode]

/-- A value is sent as its bytes in UTF-8, of which those that a component of a URL may hold stay
and every other one is escaped. The marks put back slice by slice give the same, so every slice can
be taken, and so does leaving a text without escaped marks as it is. What is sent decodes to the value,
and values one after the other are sent one after the other. -/
theorem encode_is_bytewise (value : String) :
    let escaped := escape value.toList
    (encode value).toList = value.toUTF8.data.toList.flatMap sendByte ∧
      restoreSlices? escaped = some (encode value).toList ∧
      restoreIfMarked? escaped = some (encode value).toList ∧
      decode? (encode value).toList = some value ∧
      ∀ other, encode (value ++ other) = encode value ++ encode other := by
  intro escaped
  have hsent := toList_encode_eq_flatMap value
  have hescaped : escaped = value.toUTF8.data.toList.flatMap encodeByte := escape_eq_flatMap value
  have hslices : restoreSlices? escaped = some (encode value).toList := by
    rw [hsent, hescaped, restoreSlices?_flatMap]
  have hmarked : restoreIfMarked? escaped = some (encode value).toList := by
    unfold restoreIfMarked?
    split
    · exact hslices
    · rename_i hn
      rw [hescaped] at hn ⊢
      rw [hsent, flatMap_encodeByte_of_unmarked fun m hm hi => hn ⟨m, hm, hi⟩]
  exact ⟨hsent, hslices, hmarked, decode?_encode value, encode_append value⟩

end BracketQuery.Percent
