import BracketQuery.Proofs.Wire.Part

/-!
Where parameters are: below which path their keys lie. If the names in the keys are plain, a key
lies below one name only.
-/

namespace BracketQuery

/-- A name without the marks at which a segment of a key, a key and a parameter end. -/
def IsPlainName (name : String) : Prop :=
  ']' ∉ name.toList ∧ '=' ∉ name.toList ∧ '&' ∉ name.toList

instance : DecidablePred IsPlainName := fun name =>
  inferInstanceAs (Decidable (']' ∉ name.toList ∧ '=' ∉ name.toList ∧ '&' ∉ name.toList))

/-- A key without the marks at which a key and a parameter end. -/
def IsPlainKey (key : String) : Prop := '=' ∉ key.toList ∧ '&' ∉ key.toList

instance : DecidablePred IsPlainKey := fun key =>
  inferInstanceAs (Decidable ('=' ∉ key.toList ∧ '&' ∉ key.toList))

theorem toString_inj {m n : Nat} (h : toString m = toString n) : m = n := by
  have hl := congrArg String.toList h
  rw [Nat.toString_eq_ofList_toDigits, Nat.toString_eq_ofList_toDigits, String.toList_ofList,
    String.toList_ofList] at hl
  calc
    m = Nat.ofDigitChars 10 (Nat.toDigits 10 m) 0 := Nat.ofDigitChars_ten_toDigits.symm
    _ = Nat.ofDigitChars 10 (Nat.toDigits 10 n) 0 := by rw [hl]
    _ = n := Nat.ofDigitChars_ten_toDigits

theorem isPlainName_toString (n : Nat) : IsPlainName (toString n) := by
  have hd : ∀ c ∈ (toString n).toList, c.isDigit = true := by
    intro c hc
    rw [Nat.toString_eq_ofList_toDigits, String.toList_ofList] at hc
    exact Nat.isDigit_of_mem_toDigits (by decide) (by decide) hc
  exact ⟨fun h => absurd (hd _ h) (by decide), fun h => absurd (hd _ h) (by decide),
    fun h => absurd (hd _ h) (by decide)⟩

/-! ## Keys below a path -/

namespace KeyPath

/-- The key is the path, or the path and plain segments after it. -/
def Reaches (path : KeyPath) (key : String) : Prop :=
  ∃ below, key = path.text ++ below ∧ IsPlainKey below

variable {path : KeyPath} {key : String}

theorem reaches_text (path : KeyPath) : path.Reaches path.text :=
  ⟨"", by simp, by simp [IsPlainKey]⟩

theorem text_child_toList (path : KeyPath) (name below : String) :
    ((path.child name).text ++ below).toList =
      path.text.toList ++ '[' :: (name.toList ++ ']' :: below.toList) := by
  simp [bracketed]

theorem Reaches.of_child {name : String} (hn : IsPlainName name)
    (h : (path.child name).Reaches key) : path.Reaches key := by
  obtain ⟨below, rfl, he, ha⟩ := h
  refine ⟨bracketed name ++ below, by rw [text_child, String.append_assoc], ?_, ?_⟩
  · simp [bracketed, hn.2.1, he]
  · simp [bracketed, hn.2.2, ha]

/-- Names without a closing bracket are told from what follows them. -/
theorem name_eq_of_append_eq {a b : String} (ha : ']' ∉ a.toList) (hb : ']' ∉ b.toList)
    {below below' : List Char} (h : a.toList ++ ']' :: below = b.toList ++ ']' :: below') :
    a = b := by
  have stops {name : String} (hn : ']' ∉ name.toList) (below : List Char) :
      (name.toList ++ ']' :: below).takeWhile (· != ']') = name.toList := by
    have hp : ∀ c ∈ name.toList, (c != ']') = true := by
      intro c hc
      exact bne_iff_ne.mpr (ne_of_mem_of_not_mem hc hn)
    rw [List.takeWhile_append_of_pos hp]
    simp
  have ht := congrArg (List.takeWhile (· != ']')) h
  rw [stops ha, stops hb] at ht
  exact String.toList_inj.mp ht

/-- A key below a plain name determines the name. -/
theorem Reaches.name_eq {a b : String} (ha : IsPlainName a) (hb : IsPlainName b)
    (h : (path.child a).Reaches key) (h' : (path.child b).Reaches key) : a = b := by
  obtain ⟨below, rfl, _⟩ := h
  obtain ⟨below', he, _⟩ := h'
  have hl := congrArg String.toList he
  simp only [text_child_toList, List.append_cancel_left_eq, List.cons.injEq, true_and] at hl
  exact name_eq_of_append_eq ha.1 hb.1 hl

theorem index_inj {i j : Nat} (h : (path.index i).Reaches key) (h' : (path.index j).Reaches key) :
    i = j :=
  toString_inj (h.name_eq (isPlainName_toString i) (isPlainName_toString j) h')

/-- The place of an element is not below a name in an element. -/
theorem not_reaches_index {i j : Nat} {name : String} (hn : IsPlainName name) :
    ¬ ((path.index j).child name).Reaches (path.index i).text := by
  intro h
  obtain rfl := index_inj (reaches_text (path.index i)) (h.of_child hn)
  obtain ⟨below, he, _⟩ := h
  have hl := congrArg String.length he
  rw [text_child] at hl
  simp only [String.length_append, bracketed, show "[".length = 1 from rfl] at hl
  omega

/-- A key below a plain root is plain. -/
theorem Reaches.isPlainKey {root : String} (hroot : IsPlainKey root)
    (h : (ofRoot root).Reaches key) : IsPlainKey key := by
  obtain ⟨below, rfl, he, ha⟩ := h
  constructor
  · simp [hroot.1, he]
  · simp [hroot.2, ha]

end KeyPath

end BracketQuery
