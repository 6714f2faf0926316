import BracketQuery.Document.Strict
import BracketQuery.Proofs.Json.Strings
import BracketQuery.Proofs.Text.Trimming
import BracketQuery.Proofs.TypeCodes
import Mathlib.Data.List.Basic

/-!
What a list of type codes holds: the clean forms of the given codes, each once, in the order in
which they are first given. A clean form is its own clean form, so a list of its own codes is the
same list, also after it has been written and read.
-/

namespace BracketQuery.TypeCodes

/-- A code in the form in which codes are kept. -/
structure IsClean (code : String) : Prop where
  ne_empty : code ≠ ""
  isTrimmed : Text.IsTrimmed code.toList
  lowercase_eq : Text.lowercase code = code

/-! ## Clean forms -/

theorem toList_clean (code : String) :
    (clean code).toList = Text.lowercaseAfter [] (Text.trim code.toList) := by
  rw [clean, Text.lowercase, String.toList_ofList, String.toList_ofList]

theorem clean_eq_empty_iff (code : String) :
    clean code = "" ↔ ∀ c ∈ code.toList, Text.isBlank c = true := by
  rw [← String.toList_eq_nil_iff, toList_clean, Text.lowercaseAfter_eq_nil_iff,
    Text.trim_eq_nil_iff]

theorem clean_ne_empty_iff (code : String) :
    clean code ≠ "" ↔ ∃ c ∈ code.toList, Text.isBlank c = false := by
  rw [Ne, clean_eq_empty_iff]
  simp

theorem isClean_clean {code : String} (h : clean code ≠ "") : IsClean (clean code) where
  ne_empty := h
  isTrimmed := by
    rw [toList_clean]
    exact (Text.isTrimmed_trim code.toList).lowercaseAfter []
  lowercase_eq := Text.lowercase_lowercase _

theorem IsClean.clean_eq {code : String} (h : IsClean code) : clean code = code := by
  rw [clean, h.isTrimmed.trim_eq, String.ofList_toList, h.lowercase_eq]

/-! ## Each code once -/

/-- The codes come in the order in which they are first given. -/
theorem codes_pairwise (given : List String) :
    (ofList given).codes.Pairwise fun a b =>
      (given.map clean).idxOf a < (given.map clean).idxOf b := by
  induction given using List.reverseRecOn with
  | nil => exact List.Pairwise.nil
  | append_singleton given added ih =>
      have hmem : ∀ code ∈ (ofList given).codes, code ∈ given.map clean :=
        fun code hc => (mem_codes_iff.mp hc).2
      have hold : (ofList given).codes.Pairwise fun a b =>
          ((given ++ [added]).map clean).idxOf a < ((given ++ [added]).map clean).idxOf b := by
        refine ih.imp_of_mem fun {a b} ha hb hlt => ?_
        rw [List.map_append, List.idxOf_append_of_mem (hmem a ha),
          List.idxOf_append_of_mem (hmem b hb)]
        exact hlt
      rw [codes_append_singleton]
      simp only [add]
      split
      · exact hold
      · rename_i h
        refine List.pairwise_append.mpr ⟨hold, List.pairwise_singleton _ _, fun a ha b hb => ?_⟩
        obtain rfl := List.mem_singleton.mp hb
        -- The new code is not blank, so it would be in the list if it had been given before.
        have hnew : clean added ∉ given.map clean := fun hg =>
          h (.inr (mem_codes_iff.mpr ⟨fun he => h (.inl he), hg⟩))
        have hlt := List.idxOf_lt_length_iff.mpr (hmem a ha)
        rw [List.map_append, List.idxOf_append_of_mem (hmem a ha),
          List.idxOf_append_of_notMem hnew]
        omega

theorem codes_nodup (given : List String) : (ofList given).codes.Nodup := by
  refine (codes_pairwise given).imp fun {a b} hlt he => ?_
  subst he
  exact Nat.lt_irrefl _ hlt

theorem isClean_of_mem {given : List String} {code : String} (h : code ∈ (ofList given).codes) :
    IsClean code := by
  obtain ⟨hne, hmem⟩ := mem_codes_iff.mp h
  obtain ⟨g, _, rfl⟩ := List.mem_map.mp hmem
  exact isClean_clean hne

/-! ## A list of clean codes -/

theorem foldl_add_of_isClean (codes : List String) :
    ∀ {known : List String}, (∀ code ∈ codes, IsClean code) → (known ++ codes).Nodup →
      codes.foldl add known = known ++ codes := by
  induction codes with
  | nil => simp
  | cons code rest ih =>
      intro known hc hn
      obtain ⟨hcode, hrest⟩ := List.forall_mem_cons.mp hc
      have hnew : code ∉ known := fun hk =>
        (List.nodup_append.mp hn).2.2 code hk code List.mem_cons_self rfl
      have happ : known ++ code :: rest = known ++ [code] ++ rest := by simp
      have hadd : add known code = known ++ [code] := by
        simp [add, hcode.clean_eq, hcode.ne_empty, hnew]
      rw [List.foldl_cons, hadd, happ]
      exact ih hrest (happ ▸ hn)

theorem ofList_codes (given : List String) : ofList (ofList given).codes = ofList given := by
  have hf : (ofList given).codes.foldl add [] = [] ++ (ofList given).codes :=
    foldl_add_of_isClean _ (fun _ => isClean_of_mem) (codes_nodup given)
  exact congrArg TypeCodes.mk hf

theorem parse_toJson (known : TypeCodes) :
    parse known.toJson.compact = .ok (ofList known.codes) := by
  have hr : TypeCodes.read known.toJson.compact.toList = .ok (ofList known.codes, []) := by
    have ha := Json.readArray_strings "a string" known.codes []
    rw [List.append_nil] at ha
    rw [TypeCodes.read, toJson, ha]
    rfl
  simp only [parse, Json.readAll, hr]
  rfl

/-- A list holds clean codes only, each once and in the order in which they are first given: the
clean forms of all given codes that are not blank. A stored code stands for itself, and a candidate
for the stored code that it is in lower case, if there is one. The list of the stored codes is the
same list, as is what is read of the written list. -/
theorem ofList_spec (given : List String) :
    (∀ code ∈ (ofList given).codes, IsClean code) ∧
      (ofList given).codes.Nodup ∧
      ((ofList given).codes.Pairwise fun a b =>
        (given.map clean).idxOf a < (given.map clean).idxOf b) ∧
      (∀ code, code ∈ (ofList given).codes ↔
        ∃ g ∈ given, (∃ c ∈ g.toList, Text.isBlank c = false) ∧ clean g = code) ∧
      (∀ code ∈ (ofList given).codes, (ofList given).canonicalize? code = some code) ∧
      (∀ candidate code, (ofList given).canonicalize? candidate = some code ↔
        code ∈ (ofList given).codes ∧ Text.lowercase candidate = code) ∧
      (∀ candidate code, (ofList given).canonicalize? candidate = some code →
        (ofList given).canonicalize? code = some code) ∧
      ofList (ofList given).codes = ofList given ∧
      parse (ofList given).toJson.compact = .ok (ofList given) := by
  have hself : ∀ code ∈ (ofList given).codes, (ofList given).canonicalize? code = some code :=
    fun code => (canonicalize?_eq_self_iff given code).mpr
  refine ⟨fun _ => isClean_of_mem, codes_nodup given, codes_pairwise given, fun code => ?_, hself,
    fun candidate code => ?_, fun candidate code h => ?_, ofList_codes given, ?_⟩
  · rw [mem_codes_iff, List.mem_map]
    constructor
    · rintro ⟨hne, g, hg, rfl⟩
      exact ⟨g, hg, (clean_ne_empty_iff g).mp hne, rfl⟩
    · rintro ⟨g, hg, hb, rfl⟩
      exact ⟨(clean_ne_empty_iff g).mpr hb, g, hg, rfl⟩
  · rw [canonicalize?_eq_some_iff]
    exact and_comm
  · exact hself code (canonicalize?_eq_some_iff.mp h).2
  · rw [parse_toJson, ofList_codes]

/-- Codes with a final sigma and with a letter whose lower case is two characters. -/
theorem greek_code_stored :
    let known := ofList [" ΟΔΟΣ", "\u3000", "İl\t", "οδος", "Sale"]
    known.codes = ["οδος", "i̇l", "sale"] ∧
      known.canonicalize? "ΟΔΟΣ" = some "οδος" ∧ known.canonicalize? "οδος" = some "οδος" ∧
      known.canonicalize? "sale " = none ∧ IsClean "i̇l" := by
  intro known
  have hspec := ofList_spec [" ΟΔΟΣ", "\u3000", "İl\t", "οδος", "Sale"]
  have hcodes : known.codes = ["οδος", "i̇l", "sale"] := by decide +kernel
  have hc : known.canonicalize? "ΟΔΟΣ" = some "οδος" := by decide +kernel
  have hl : "i̇l" ∈ known.codes := hcodes ▸ by decide
  exact ⟨hcodes, hc, hspec.2.2.2.2.2.2.1 _ _ hc, by decide +kernel, hspec.1 _ hl⟩

end BracketQuery.TypeCodes
