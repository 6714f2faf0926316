import BracketQuery.Json.Typed

/-!
Strings and lists of strings in JSON text: what is written of them is read back, whatever characters
they hold.
-/

namespace BracketQuery.Json

/-! ## Strings -/

/-- The two digits after the zeros in the escape of a control character. -/
theorem hexNumber?_control : ∀ n < 32,
    Text.hexNumber? ['0', '0', Nat.digitChar (n / 16), Nat.digitChar (n % 16)] = some n := by
  decide

theorem readString_escapeChar (c : Char) (text : List Char) :
    readString (escapeChar c ++ text) = consChar c (readString text) := by
  unfold escapeChar
  split
  · rfl
  · rfl
  · rfl
  · rfl
  · rfl
  · rfl
  · rfl
  · rename_i hquote hslash _ _ _ _ _
    split
    · rename_i hc
      have hs : ¬ (0xDC00 ≤ c.toNat ∧ c.toNat ≤ 0xDFFF) := by omega
      have hl : c.toNat < 0xD800 ∨ 0xDFFF < c.toNat := .inl (by omega)
      simp only [List.cons_append, List.nil_append, readString, hexNumber?_control _ hc, hs, hl,
        ↓reduceIte, Char.ofNat_toNat]
    · rename_i hc
      rw [List.singleton_append, readString]
      · rw [if_neg hc]
      · exact hquote
      · exact hslash

/-- A string that has been written is read back, up to its closing quotation mark. -/
theorem readString_escaped (chars rest : List Char) :
    readString (chars.flatMap escapeChar ++ '"' :: rest) = .ok (chars, rest) := by
  induction chars with
  | nil => rfl
  | cons c chars ih =>
      rw [List.flatMap_cons, List.append_assoc, readString_escapeChar, ih]
      rfl

theorem toList_stringText (s : String) :
    (stringText s).toList = '"' :: (s.toList.flatMap escapeChar ++ ['"']) := by
  simp [stringText]

theorem readText_stringText (expected s : String) (rest : List Char) :
    readText expected ((stringText s).toList ++ rest) = .ok (s, rest) := by
  rw [toList_stringText, List.cons_append, List.append_assoc, List.singleton_append]
  have hs : skipSpace ('"' :: (s.toList.flatMap escapeChar ++ '"' :: rest)) =
      '"' :: (s.toList.flatMap escapeChar ++ '"' :: rest) := rfl
  simp only [readText, hs, readString_escaped, Except.map, String.ofList_toList]

/-! ## Lists of strings -/

/-- The strings of a list behind the first one, as they are written. -/
def furtherStrings (values : List String) : List Char :=
  values.flatMap fun value => ',' :: (stringText value).toList

theorem toList_compactElements (value : String) (rest : List String) :
    (compactElements ((value :: rest).map .string)).toList =
      (stringText value).toList ++ furtherStrings rest := by
  induction rest generalizing value with
  | nil => simp [compactElements, compact, furtherStrings]
  | cons next rest ih =>
      have hn := ih next
      simp only [List.map_cons] at hn
      simp only [List.map_cons, compactElements, compact, String.toList_append, hn, furtherStrings,
        List.flatMap_cons]
      simp

theorem length_le_furtherStrings (values : List String) :
    values.length ≤ (furtherStrings values).length := by
  induction values with
  | nil => exact Nat.le_refl 0
  | cons value rest ih =>
      simp only [furtherStrings, List.flatMap_cons, List.length_append, List.length_cons] at ih ⊢
      omega

theorem nextElement_stringText (value : String) (text : List Char) :
    nextElement true ((stringText value).toList ++ text) =
        .ok (some ((stringText value).toList ++ text)) ∧
      nextElement false (',' :: (stringText value).toList ++ text) =
        .ok (some ((stringText value).toList ++ text)) := by
  rw [toList_stringText]
  exact ⟨rfl, rfl⟩

/-- One string is read, then the rest of the list. -/
theorem readItems_stringText {expected value : String} {first : Bool} {fuel : Nat}
    {text after rest : List Char} {values : List String}
    (hnext : nextElement first text = .ok (some ((stringText value).toList ++ after)))
    (hafter : readItems (readText expected) fuel false after = .ok (values, rest)) :
    readItems (readText expected) (fuel + 1) first text = .ok (value :: values, rest) := by
  simp only [readItems, hnext, readText_stringText, hafter, bind, Except.bind, pure, Except.pure]

theorem readItems_furtherStrings (expected : String) (rest : List Char) (values : List String) :
    ∀ fuel, values.length < fuel →
      readItems (readText expected) fuel false (furtherStrings values ++ ']' :: rest) =
        .ok (values, rest) := by
  induction values with
  | nil =>
      intro fuel hf
      obtain ⟨fuel, rfl⟩ := Nat.exists_eq_add_of_lt hf
      rfl
  | cons value values ih =>
      intro fuel hf
      obtain ⟨fuel, rfl⟩ : ∃ n, fuel = n + 1 := ⟨fuel - 1, by omega⟩
      rw [furtherStrings, List.flatMap_cons, List.append_assoc]
      exact readItems_stringText (nextElement_stringText value _).2
        (ih fuel (Nat.lt_of_succ_lt_succ hf))

/-- A list of strings that has been written is read back. -/
theorem readArray_strings (expected : String) (values : List String) (rest : List Char) :
    readArray (readText expected) ((strings values).compact.toList ++ rest) =
      .ok (values, rest) := by
  have hread : readItems (readText expected)
      (((compactElements (values.map .string)).toList ++ ']' :: rest).length + 1) true
        ((compactElements (values.map .string)).toList ++ ']' :: rest) = .ok (values, rest) := by
    cases values with
    | nil => rfl
    | cons value values =>
        rw [toList_compactElements, List.append_assoc]
        refine readItems_stringText (nextElement_stringText value _).1
          (readItems_furtherStrings expected rest values _ ?_)
        have hl := length_le_furtherStrings values
        simp only [List.length_append, List.length_cons]
        omega
  have htext : (strings values).compact.toList ++ rest =
      '[' :: ((compactElements (values.map .string)).toList ++ ']' :: rest) := by
    simp [strings, compact]
  have hs : ∀ text, skipSpace ('[' :: text) = '[' :: text := fun _ => rfl
  simp only [htext, readArray, hs, hread]

end BracketQuery.Json
