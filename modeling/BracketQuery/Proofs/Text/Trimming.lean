import BracketQuery.Proofs.Text.Casing
import BracketQuery.Text.Blank
import Mathlib.Data.List.DropRight

/-!
White space at the ends of a text: trimming leaves none, and lower case brings none, since no
character that is not white space becomes white space.
-/

namespace BracketQuery.Text

/-- A text that neither begins nor ends with white space. -/
structure IsTrimmed (text : List Char) : Prop where
  head : ∀ c ∈ text.head?, isBlank c = false
  last : ∀ c ∈ text.getLast?, isBlank c = false

/-! ## Trimming -/

theorem trim_eq_rdropWhile (text : List Char) :
    trim text = (text.dropWhile isBlank).rdropWhile isBlank := rfl

theorem isTrimmed_trim (text : List Char) : IsTrimmed (trim text) := by
  rw [trim_eq_rdropWhile]
  constructor
  · intro c hc
    -- What is left at the end is a beginning of what is left in front.
    obtain ⟨ending, he⟩ := List.rdropWhile_prefix isBlank (text.dropWhile isBlank)
    obtain ⟨rest, hr⟩ := List.head?_eq_some_iff.mp hc
    have hd : (text.dropWhile isBlank).head? = some c := by rw [← he, hr]; rfl
    have hn := List.head?_dropWhile_not isBlank text
    rw [hd] at hn
    exact hn
  · intro c hc
    obtain ⟨hne, rfl⟩ := List.mem_getLast?_eq_getLast hc
    exact Bool.eq_false_iff.mpr (List.rdropWhile_last_not isBlank _ hne)

theorem trim_eq_nil_iff (text : List Char) : trim text = [] ↔ ∀ c ∈ text, isBlank c = true := by
  rw [trim_eq_rdropWhile, List.rdropWhile_eq_nil_iff]
  constructor
  · intro h c hc
    rw [← List.takeWhile_append_dropWhile (p := isBlank) (l := text)] at hc
    rcases List.mem_append.mp hc with ht | hd
    · exact List.mem_takeWhile_imp ht
    · exact h c hd
  · exact fun h c hc => h c ((List.dropWhile_sublist isBlank).subset hc)

theorem IsTrimmed.trim_eq {text : List Char} (h : IsTrimmed text) : trim text = text := by
  have hd : text.dropWhile isBlank = text := by
    cases text with
    | nil => rfl
    | cons c rest => exact List.dropWhile_cons_of_neg (by simpa using h.head c rfl)
  rw [trim_eq_rdropWhile, hd, List.rdropWhile_eq_self_iff]
  intro hne hb
  have hl := h.last _ (List.getLast?_eq_some_getLast hne)
  rw [hl] at hb
  exact Bool.false_ne_true hb

/-! ## Lower case -/

/-- Whether no image of a run is white space. -/
def CaseRun.isVisible (run : CaseRun) : Bool :=
  blankRanges.all fun range =>
    (run.image run.last).blt range.1 || range.2.blt (run.image run.first)

theorem lowercaseRuns_isVisible : lowercaseRuns.all CaseRun.isVisible = true := by
  decide +kernel

theorem CaseRun.isBlank_image {run : CaseRun} {n : Nat} (hp : run.isProper = true)
    (hv : run.isVisible = true) (h : run.holds n = true) :
    isBlank (Char.ofNat (run.image n)) = false := by
  have hf := image_eq_add hp h
  have hl := image_le_last h
  simp only [isBlank, inRanges, List.any_eq_false, toNat_image hp h, Bool.and_eq_true,
    decide_eq_true_eq, not_and]
  intro range hr hge
  have hb := List.all_eq_true.mp hv range hr
  simp only [Bool.or_eq_true, Nat.blt_eq] at hb
  omega

theorem isBlank_lowerChar {c : Char} (h : isBlank c = false) : isBlank (lowerChar c) = false := by
  rw [lowerChar_eq]
  cases hf : lowercaseRuns.find? fun run => CaseRun.holds run c.toNat with
  | none => exact h
  | some run =>
      have hr := List.mem_of_find?_eq_some hf
      have hh : CaseRun.holds run c.toNat = true := by simpa using List.find?_some hf
      exact CaseRun.isBlank_image (List.all_eq_true.mp lowercaseRuns_isProper run hr)
        (List.all_eq_true.mp lowercaseRuns_isVisible run hr) hh

/-- A character becomes some characters, none of them white space if it is none. -/
theorem exists_lowercaseAfter_cons (before : List Char) (c : Char) (rest : List Char) :
    ∃ d here, lowercaseAfter before (c :: rest) = d :: here ++ lowercaseAfter (c :: before) rest ∧
      (isBlank c = false → ∀ e ∈ d :: here, isBlank e = false) := by
  simp only [lowercaseAfter]
  split
  · refine ⟨_, [], rfl, fun _ => List.forall_mem_singleton.mpr ?_⟩
    split <;> decide
  · exact ⟨'i', ['\u0307'], rfl, fun _ =>
      List.forall_mem_cons.mpr ⟨by decide, List.forall_mem_singleton.mpr (by decide)⟩⟩
  · exact ⟨_, [], rfl, fun h => List.forall_mem_singleton.mpr (isBlank_lowerChar h)⟩

theorem lowercaseAfter_eq_nil_iff (before text : List Char) :
    lowercaseAfter before text = [] ↔ text = [] := by
  cases text with
  | nil => exact iff_of_true rfl rfl
  | cons c rest =>
      obtain ⟨d, here, he, _⟩ := exists_lowercaseAfter_cons before c rest
      simp [he]

theorem isBlank_getLast_lowercaseAfter (text : List Char) : ∀ before : List Char,
    (∀ c ∈ text.getLast?, isBlank c = false) →
      ∀ c ∈ (lowercaseAfter before text).getLast?, isBlank c = false := by
  induction text with
  | nil => exact fun _ h => h
  | cons c rest ih =>
      intro before h
      obtain ⟨d, here, he, hb⟩ := exists_lowercaseAfter_cons before c rest
      rw [he]
      cases rest with
      | nil =>
          intro e hl
          rw [lowercaseAfter, List.append_nil] at hl
          exact hb (h c rfl) e (List.mem_of_getLast? hl)
      | cons c' rest =>
          have hne : lowercaseAfter (c :: before) (c' :: rest) ≠ [] :=
            mt (lowercaseAfter_eq_nil_iff _ _).mp (List.cons_ne_nil c' rest)
          rw [List.getLast?_append_of_ne_nil _ hne]
          exact ih (c :: before) fun e hl => h e (by rwa [List.getLast?_cons_cons])

theorem IsTrimmed.lowercaseAfter {text : List Char} (h : IsTrimmed text) (before : List Char) :
    IsTrimmed (lowercaseAfter before text) := by
  refine ⟨?_, isBlank_getLast_lowercaseAfter text before h.last⟩
  cases text with
  | nil => exact h.head
  | cons c rest =>
      obtain ⟨d, here, he, hb⟩ := exists_lowercaseAfter_cons before c rest
      rw [he]
      intro e hd
      cases hd
      exact hb (h.head c rfl) d List.mem_cons_self

end BracketQuery.Text
