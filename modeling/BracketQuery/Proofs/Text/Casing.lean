import BracketQuery.Text.Casing

/-!
Lower case is a fixed form: a text in lower case is its own lower case. This rests on the table: no
lower-case form that it gives is itself in the table.
-/

namespace BracketQuery.Text

/-! ## Runs of the table -/

/-- Characters of one kind with their lower-case forms: first, last, distance and difference. -/
abbrev CaseRun := Nat × Nat × Nat × Int

namespace CaseRun

def first (run : CaseRun) : Nat := run.1

def last (run : CaseRun) : Nat := run.2.1

def distance (run : CaseRun) : Nat := run.2.2.1

/-- The lower-case form of a member. -/
def image (run : CaseRun) (n : Nat) : Nat := (n + run.2.2.2).toNat

/-- Whether a run has a member. -/
def holds (run : CaseRun) (n : Nat) : Bool :=
  run.first ≤ n && n ≤ run.last && (n - run.first) % run.distance == 0

/-- Whether the members of a run leave out every second character. -/
def isSparse (run : CaseRun) : Bool := run.first == run.last || run.distance == 2

/-- Whether the images of a run are characters: none is cut off at zero, and none is a surrogate. -/
def isProper (run : CaseRun) : Bool :=
  0 ≤ run.first + run.2.2.2 && ((run.image run.last).blt 0xd800 ||
    (Nat.blt 0xdfff (run.image run.first) && (run.image run.last).blt 0x110000))

/-- Whether no image of a run is a member of another: they lie before it, or behind it, or between
its members. -/
def isApart (run other : CaseRun) : Bool :=
  (run.image run.last).blt other.first || other.last.blt (run.image run.first) ||
    (run.isSparse && other.distance == 2 && run.image run.first % 2 != other.first % 2)

variable {run other : CaseRun} {n : Nat}

theorem first_le (h : run.holds n = true) : run.first ≤ n := by
  simp only [holds, Bool.and_eq_true, decide_eq_true_eq] at h
  exact h.1.1

theorem le_last (h : run.holds n = true) : n ≤ run.last := by
  simp only [holds, Bool.and_eq_true, decide_eq_true_eq] at h
  exact h.1.2

theorem mod_distance (h : run.holds n = true) : (n - run.first) % run.distance = 0 := by
  simp only [holds, Bool.and_eq_true, beq_iff_eq] at h
  exact h.2

/-- Images are as far apart as the members. -/
theorem image_eq_add (hp : run.isProper = true) (h : run.holds n = true) :
    run.image n = run.image run.first + (n - run.first) := by
  have hn := first_le h
  simp only [isProper, Bool.and_eq_true, decide_eq_true_eq] at hp
  have h0 := hp.1
  simp only [image]
  omega

theorem image_le_last (h : run.holds n = true) : run.image n ≤ run.image run.last := by
  have hn := le_last h
  simp only [image]
  omega

theorem toNat_image (hp : run.isProper = true) (h : run.holds n = true) :
    (Char.ofNat (run.image n)).toNat = run.image n := by
  have hf := image_eq_add hp h
  have hl := image_le_last h
  have hv : (run.image n).isValidChar := by
    simp only [isProper, Bool.and_eq_true, Bool.or_eq_true, Nat.blt_eq] at hp
    simp only [Nat.isValidChar]
    omega
  rw [Char.ofNat, dif_pos hv]
  rfl

theorem image_mod_two (hp : run.isProper = true) (hs : run.isSparse = true)
    (h : run.holds n = true) : run.image n % 2 = run.image run.first % 2 := by
  have hf := image_eq_add hp h
  have hd := mod_distance h
  simp only [isSparse, Bool.or_eq_true, beq_iff_eq] at hs
  rcases hs with he | he
  · have := first_le h
    have := le_last h
    omega
  · rw [he] at hd
    omega

theorem holds_image (hp : run.isProper = true) (ha : run.isApart other = true)
    (h : run.holds n = true) : other.holds (run.image n) = false := by
  apply Bool.eq_false_iff.mpr
  intro ho
  have hf := image_eq_add hp h
  have hl := image_le_last h
  have hof := first_le ho
  have hol := le_last ho
  simp only [isApart, Bool.and_eq_true, Bool.or_eq_true, Nat.blt_eq, beq_iff_eq, bne_iff_ne] at ha
  rcases ha with (ha | ha) | ⟨⟨hs, h2⟩, ha⟩
  · omega
  · omega
  · have hm := image_mod_two hp hs h
    have hd := mod_distance ho
    rw [h2] at hd
    omega

end CaseRun

/-- The two characters whose lower-case forms are not in the table, as runs. -/
def specialRuns : List CaseRun := [(304, 304, 1, 0), (931, 931, 1, 0)]

theorem lowercaseRuns_isProper : lowercaseRuns.all CaseRun.isProper = true := by
  decide +kernel

theorem lowercaseRuns_isApart :
    lowercaseRuns.all (fun run => specialRuns.all (CaseRun.isApart run) &&
      lowercaseRuns.all (CaseRun.isApart run)) = true := by
  decide +kernel

/-! ## Characters -/

/-- A character that is its own lower-case form: no run has it. -/
def IsLower (c : Char) : Prop :=
  ∀ run ∈ specialRuns ++ lowercaseRuns, CaseRun.holds run c.toNat = false

theorem lowerChar_eq (c : Char) :
    lowerChar c = ((lowercaseRuns.find? fun run => CaseRun.holds run c.toNat).map fun run =>
      Char.ofNat (CaseRun.image run c.toNat)).getD c := by
  change (match lowercaseRuns.find? fun run => CaseRun.holds run c.toNat with
    | some (_, _, _, difference) => Char.ofNat (c.toNat + difference).toNat
    | none => c) = _
  cases lowercaseRuns.find? fun run => CaseRun.holds run c.toNat <;> rfl

theorem IsLower.lowerChar {c : Char} (h : IsLower c) : lowerChar c = c := by
  have hn : (lowercaseRuns.find? fun run => CaseRun.holds run c.toNat) = none := by
    refine List.find?_eq_none.mpr fun run hr => ?_
    simp [h run (List.mem_append_right _ hr)]
  simp [lowerChar_eq, hn]

theorem IsLower.ne {c : Char} (h : IsLower c) : c ≠ 'Σ' ∧ c ≠ 'İ' := by
  constructor
  · rintro rfl
    simpa [CaseRun.holds, CaseRun.first, CaseRun.last, CaseRun.distance] using
      h (931, 931, 1, 0) (by simp [specialRuns])
  · rintro rfl
    simpa [CaseRun.holds, CaseRun.first, CaseRun.last, CaseRun.distance] using
      h (304, 304, 1, 0) (by simp [specialRuns])

theorem specialRuns_holds {c : Char} (hs : c ≠ 'Σ') (hd : c ≠ 'İ') :
    ∀ run ∈ specialRuns, CaseRun.holds run c.toNat = false := by
  intro run hr
  apply Bool.eq_false_iff.mpr
  intro h
  have hf := CaseRun.first_le h
  have hl := CaseRun.le_last h
  simp only [specialRuns, List.mem_cons, List.not_mem_nil, or_false] at hr
  rcases hr with rfl | rfl
  · exact hd (Char.toNat_inj.mp (Nat.le_antisymm hl hf))
  · exact hs (Char.toNat_inj.mp (Nat.le_antisymm hl hf))

theorem isLower_lowerChar {c : Char} (hs : c ≠ 'Σ') (hd : c ≠ 'İ') : IsLower (lowerChar c) := by
  rw [lowerChar_eq]
  cases hf : lowercaseRuns.find? fun run => CaseRun.holds run c.toNat with
  | none =>
      intro run hr
      rcases List.mem_append.mp hr with hr | hr
      · exact specialRuns_holds hs hd run hr
      · exact Bool.eq_false_iff.mpr (List.find?_eq_none.mp hf run hr)
  | some run =>
      have hr := List.mem_of_find?_eq_some hf
      have hh : CaseRun.holds run c.toNat = true := by simpa using List.find?_some hf
      have hp := List.all_eq_true.mp lowercaseRuns_isProper run hr
      have ha := List.all_eq_true.mp lowercaseRuns_isApart run hr
      simp only [Bool.and_eq_true, List.all_eq_true] at ha
      intro other ho
      change CaseRun.holds other (Char.ofNat (CaseRun.image run c.toNat)).toNat = false
      rw [CaseRun.toNat_image hp hh]
      rcases List.mem_append.mp ho with ho | ho
      · exact CaseRun.holds_image hp (ha.1 other ho) hh
      · exact CaseRun.holds_image hp (ha.2 other ho) hh

/-- The lower-case forms of the two special characters. -/
theorem isLower_special : ∀ c ∈ ['σ', 'ς', 'i', '\u0307'], IsLower c := by
  have h : ['σ', 'ς', 'i', '\u0307'].all (fun c => (specialRuns ++ lowercaseRuns).all fun run =>
      !CaseRun.holds run c.toNat) = true := by
    decide +kernel
  intro c hc run hr
  have hs := List.all_eq_true.mp h c hc
  simpa using List.all_eq_true.mp hs run hr

/-! ## Texts -/

theorem isLower_lowercaseAfter (before text : List Char) :
    ∀ c ∈ lowercaseAfter before text, IsLower c := by
  induction text generalizing before with
  | nil => simp [lowercaseAfter]
  | cons c rest ih =>
      intro d hd
      simp only [lowercaseAfter, List.mem_append] at hd
      rcases hd with hd | hd
      · split at hd
        · refine isLower_special d ?_
          split at hd <;> simp [List.mem_singleton.mp hd]
        · exact isLower_special d (List.mem_append_right ['σ', 'ς'] hd)
        · rename_i hs hi
          obtain rfl := List.mem_singleton.mp hd
          exact isLower_lowerChar hs hi
      · exact ih (c :: before) d hd

theorem lowercaseAfter_of_isLower (before : List Char) {text : List Char}
    (h : ∀ c ∈ text, IsLower c) : lowercaseAfter before text = text := by
  induction text generalizing before with
  | nil => rfl
  | cons c rest ih =>
      obtain ⟨hc, hr⟩ := List.forall_mem_cons.mp h
      obtain ⟨hs, hi⟩ := hc.ne
      rw [lowercaseAfter, ih _ hr, hc.lowerChar]
      · rfl
      · exact hs
      · exact hi

/-- A text in lower case is its own lower case. -/
theorem lowercase_lowercase (text : String) : lowercase (lowercase text) = lowercase text := by
  unfold lowercase
  rw [String.toList_ofList, lowercaseAfter_of_isLower _ (isLower_lowercaseAfter [] _)]

end BracketQuery.Text
