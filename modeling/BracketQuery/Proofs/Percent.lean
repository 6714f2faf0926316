import BracketQuery.Url.Encoding

/-!
Percent encoding byte by byte: a byte is sent as it is if a component of a URL may hold it, and
escaped otherwise. Decoding what is sent gives the value back.
-/

namespace BracketQuery.Percent

/-- Whether a component of a URL may hold a byte as it is: a letter, a digit or one of nine marks. -/
def isComponent (byte : UInt8) : Bool :=
  let c := Char.ofNat byte.toNat
  c.isAlphanum || ['-', '_', '.', '!', '~', '*', '\x27', '(', ')'].contains c

/-- The digits of hexadecimal numbers, in upper case. -/
def upperDigits : List Char :=
  ['0', '1', '2', '3', '4', '5', '6', '7', '8', '9', 'A', 'B', 'C', 'D', 'E', 'F']

/-- A byte as it is sent: itself, or a percent sign and its two upper-case hexadecimal digits. -/
def sendByte (byte : UInt8) : List Char :=
  if isComponent byte then [Char.ofNat byte.toNat]
  else ['%', upperDigits.getD (byte.toNat / 16) '0', upperDigits.getD (byte.toNat % 16) '0']

/-- The value that an encoded text stands for, if its bytes are those of a text. -/
def decode? (text : List Char) : Option String :=
  String.fromUTF8? (Url.percentDecode text).toByteArray

/-! ## One byte -/

theorem forall_byte {p : UInt8 → Prop} (h : ∀ n < 256, p (UInt8.ofNat n)) : ∀ byte, p byte := by
  intro byte
  have hb := h byte.toNat byte.toNat_lt
  rwa [UInt8.ofNat_toNat] at hb

theorem escapeByte_eq : ∀ byte : UInt8, escapeByte byte =
    ['%', upperDigits.getD (byte.toNat / 16) '0', upperDigits.getD (byte.toNat % 16) '0'] :=
  forall_byte (by decide +kernel)

theorem sendByte_eq (byte : UInt8) :
    sendByte byte = if isComponent byte then [Char.ofNat byte.toNat] else escapeByte byte := by
  rw [sendByte, escapeByte_eq]

/-- A component byte is the character that it encodes, and that is no percent sign. -/
theorem utf8EncodeChar_of_isComponent : ∀ byte : UInt8, isComponent byte = true →
    String.utf8EncodeChar (Char.ofNat byte.toNat) = [byte] ∧ Char.ofNat byte.toNat ≠ '%' :=
  forall_byte (by decide +kernel)

theorem isComponent_of_isUnreserved : ∀ byte : UInt8, isUnreserved byte = true →
    isComponent byte = true :=
  forall_byte (by decide +kernel)

/-- The marks that are put back are those that strict escaping does not keep. -/
theorem mark?_escaped : ∀ byte : UInt8, isUnreserved byte = false →
    mark? (hexDigit (byte.toNat / 16)) (hexDigit (byte.toNat % 16)) =
      if isComponent byte then some (Char.ofNat byte.toNat) else none :=
  forall_byte (by decide +kernel)

theorem hexValue?_hexDigit {n : Nat} (h : n < 16) : Text.hexValue? (hexDigit n) = some n := by
  revert n
  decide

theorem ampersand_notMem_sendByte : ∀ byte : UInt8, '&' ∉ sendByte byte :=
  forall_byte (by decide +kernel)

/-! ## Marks put back, and escapes decoded -/

theorem restoreMarks_cons {c : Char} (h : c ≠ '%') (rest : List Char) :
    restoreMarks (c :: rest) = c :: restoreMarks rest := by
  rw [restoreMarks]
  rintro a b _ rfl
  exact absurd rfl h

theorem restoreMarks_encodeByte (byte : UInt8) (rest : List Char) :
    restoreMarks (encodeByte byte ++ rest) = sendByte byte ++ restoreMarks rest := by
  rw [encodeByte, sendByte_eq]
  cases hu : isUnreserved byte with
  | true =>
      have hc := isComponent_of_isUnreserved byte hu
      have hne := (utf8EncodeChar_of_isComponent byte hc).2
      simp [hc, restoreMarks_cons hne]
  | false =>
      have hm := mark?_escaped byte hu
      cases hc : isComponent byte with
      | true =>
          rw [hc, if_pos rfl] at hm
          simp [escapeByte, restoreMarks, hm]
      | false =>
          rw [hc, if_neg Bool.false_ne_true] at hm
          simp [escapeByte, restoreMarks, hm]

theorem percentDecode_cons {c : Char} (h : c ≠ '%') (rest : List Char) :
    Url.percentDecode (c :: rest) = String.utf8EncodeChar c ++ Url.percentDecode rest := by
  rw [Url.percentDecode]
  rintro a b _ rfl
  exact absurd rfl h

theorem percentDecode_escapeByte (byte : UInt8) (rest : List Char) :
    Url.percentDecode (escapeByte byte ++ rest) = byte :: Url.percentDecode rest := by
  have hlt := byte.toNat_lt
  have hhigh := hexValue?_hexDigit (n := byte.toNat / 16) (by omega)
  have hlow := hexValue?_hexDigit (n := byte.toNat % 16) (by omega)
  have hbyte : 16 * (byte.toNat / 16) + byte.toNat % 16 = byte.toNat := by omega
  simp [escapeByte, Url.percentDecode, hhigh, hlow, hbyte]

theorem percentDecode_sendByte (byte : UInt8) (rest : List Char) :
    Url.percentDecode (sendByte byte ++ rest) = byte :: Url.percentDecode rest := by
  rw [sendByte_eq]
  cases hc : isComponent byte with
  | true =>
      obtain ⟨he, hne⟩ := utf8EncodeChar_of_isComponent byte hc
      simp [percentDecode_cons hne, he]
  | false => simpa using percentDecode_escapeByte byte rest

/-! ## Values -/

theorem restoreMarks_flatMap (bytes : List UInt8) :
    restoreMarks (bytes.flatMap encodeByte) = bytes.flatMap sendByte := by
  induction bytes with
  | nil => rfl
  | cons byte rest ih =>
      rw [List.flatMap_cons, restoreMarks_encodeByte, ih, List.flatMap_cons]

/-- A value is sent byte by byte of its UTF-8 form. -/
theorem toList_encode (value : String) :
    (encode value).toList = (value.toList.flatMap String.utf8EncodeChar).flatMap sendByte := by
  rw [encode, String.toList_ofList, escape, restoreMarks_flatMap]

theorem ampersand_notMem_encode (value : String) : '&' ∉ (encode value).toList := by
  rw [toList_encode]
  intro h
  obtain ⟨byte, _, hb⟩ := List.mem_flatMap.mp h
  exact ampersand_notMem_sendByte byte hb

theorem percentDecode_flatMap (bytes : List UInt8) :
    Url.percentDecode (bytes.flatMap sendByte) = bytes := by
  induction bytes with
  | nil => rfl
  | cons byte rest ih => rw [List.flatMap_cons, percentDecode_sendByte, ih]

/-- Decoding an encoded value gives it back. -/
theorem decode?_encode (value : String) : decode? (encode value).toList = some value := by
  have hb : (value.toList.flatMap String.utf8EncodeChar).toByteArray = value.toByteArray := by
    have hv : String.ofList value.toList = value := String.ofList_toList
    exact congrArg String.toByteArray hv
  rw [decode?, toList_encode, percentDecode_flatMap, hb, String.fromUTF8?,
    dif_pos value.isValidUTF8]
  rfl

end BracketQuery.Percent
