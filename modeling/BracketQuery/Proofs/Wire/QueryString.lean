import BracketQuery.Proofs.Percent
import BracketQuery.Proofs.Wire.Place

/-!
Query strings read back. A query string falls apart at its ampersands into one piece for each
parameter, and a piece at its first equals sign into the key, as it is, and the encoded value. So a
query string states its parameters, whatever text their values are.
-/

namespace BracketQuery

/-- A parameter as a piece of a query string. -/
def Param.piece (p : Param) : List Char := p.key.toList ++ '=' :: (Percent.encode p.value).toList

/-- The key and the value that a piece states: what stands before its first equals sign, as it is,
and what stands after it, decoded. -/
def pairOfPiece? (piece : List Char) : Option (String × String) :=
  (Percent.decode? ((piece.dropWhile (· != '=')).drop 1)).map
    (String.ofList (piece.takeWhile (· != '=')), ·)

/-- The keys and values that a query string states, one pair for each piece between ampersands; the
empty query string states none. -/
def pairsOfQuery? (query : String) : Option (List (String × String)) :=
  if query = "" then some [] else (query.toList.splitOn '&').mapM pairOfPiece?

/-! ## Pieces -/

theorem IsPlainKey.ne_of_mem {key : String} (h : IsPlainKey key) :
    ∀ c ∈ key.toList, (c != '=') = true := by
  intro c hc
  exact bne_iff_ne.mpr (ne_of_mem_of_not_mem hc h.1)

theorem pairOfPiece?_piece {p : Param} (h : IsPlainKey p.key) :
    pairOfPiece? p.piece = some (p.key, p.value) := by
  have hkey : p.piece.takeWhile (· != '=') = p.key.toList := by
    rw [Param.piece, List.takeWhile_append_of_pos h.ne_of_mem]
    simp
  have hvalue : (p.piece.dropWhile (· != '=')).drop 1 = (Percent.encode p.value).toList := by
    rw [Param.piece, List.dropWhile_append_of_pos h.ne_of_mem]
    simp
  rw [pairOfPiece?, hkey, hvalue, Percent.decode?_encode, String.ofList_toList]
  rfl

namespace Params

theorem toList_queryString (params : Params) :
    params.queryString.toList = ['&'].intercalate (params.map Param.piece) := by
  simp [queryString, String.toList_intercalate, Function.comp_def]
  rfl

theorem eq_nil_of_queryString_eq_empty {params : Params} (h : params.queryString = "") :
    params = [] := by
  have hl := congrArg String.length h
  rw [length_queryString, show "".length = 0 from rfl] at hl
  rcases eq_or_sum_width_le (List.nil_sublist params) with hn | hw
  · exact hn.symm
  · simp only [List.map_nil, List.sum_nil] at hw
    omega

/-- No value has an ampersand in its encoded form, so the pieces are those of the parameters. -/
theorem splitOn_queryString {params : Params} (h : ∀ p ∈ params, IsPlainKey p.key)
    (hne : params ≠ []) : params.queryString.toList.splitOn '&' = params.map Param.piece := by
  rw [toList_queryString]
  refine List.splitOn_intercalate '&' ?_ (by simpa using hne)
  intro piece hpiece
  obtain ⟨p, hp, rfl⟩ := List.mem_map.mp hpiece
  simp [Param.piece, (h p hp).2, Percent.ampersand_notMem_encode]

theorem mapM_pairOfPiece? {params : Params} (h : ∀ p ∈ params, IsPlainKey p.key) :
    (params.map Param.piece).mapM pairOfPiece? = some params.pairs := by
  induction params with
  | nil => rfl
  | cons p rest ih =>
      obtain ⟨hp, hr⟩ := List.forall_mem_cons.mp h
      rw [List.map_cons, List.mapM_cons, pairOfPiece?_piece hp, ih hr]
      rfl

/-- A query string whose keys are plain states the keys and values of its parameters. -/
theorem pairsOfQuery?_queryString {params : Params} (h : ∀ p ∈ params, IsPlainKey p.key) :
    pairsOfQuery? params.queryString = some params.pairs := by
  by_cases hne : params = []
  · subst hne
    rfl
  · have hq : params.queryString ≠ "" := fun hq => hne (eq_nil_of_queryString_eq_empty hq)
    rw [pairsOfQuery?, if_neg hq, splitOn_queryString h hne, mapM_pairOfPiece? h]

theorem pairs_eq_of_queryString_eq {first second : Params} (hf : ∀ p ∈ first, IsPlainKey p.key)
    (hs : ∀ p ∈ second, IsPlainKey p.key) (h : first.queryString = second.queryString) :
    first.pairs = second.pairs := by
  refine Option.some.inj ?_
  rw [← pairsOfQuery?_queryString hf, ← pairsOfQuery?_queryString hs, h]

/-- A query string tells the keys of its parameters if they are plain. -/
theorem map_key_eq_of_queryString_eq {first second : Params}
    (hf : ∀ p ∈ first, IsPlainKey p.key) (hs : ∀ p ∈ second, IsPlainKey p.key)
    (h : first.queryString = second.queryString) :
    first.map Param.key = second.map Param.key := by
  have hp := congrArg (List.map Prod.fst) (pairs_eq_of_queryString_eq hf hs h)
  rwa [pairs, pairs, List.map_map, List.map_map] at hp

/-! ## What a value can do -/

/-- The parameters with another value at a place. -/
def setValue (params : Params) (i : Nat) (value : String) : Params :=
  params.modify i fun p => { p with value }

theorem map_key_setValue (params : Params) (i : Nat) (value : String) :
    (params.setValue i value).map Param.key = params.map Param.key := by
  induction params generalizing i with
  | nil => simp [setValue]
  | cons p rest ih =>
      cases i with
      | zero => simp [setValue]
      | succ i => simpa [setValue] using ih i

theorem pairs_setValue (params : Params) (i : Nat) (value : String) :
    (params.setValue i value).pairs = params.pairs.modify i fun pair => (pair.1, value) := by
  induction params generalizing i with
  | nil => simp [setValue, pairs]
  | cons p rest ih =>
      cases i with
      | zero => simp [setValue, pairs]
      | succ i => simpa [setValue, pairs] using ih i

/-- The query string of parameters with plain keys states their keys and values in order, so two
lists of parameters with different pairs have different query strings, and another value at a place
is read back as another value at this place and nothing else. -/
theorem queryString_determines_pairs (params : Params) (h : ∀ p ∈ params, IsPlainKey p.key) :
    pairsOfQuery? params.queryString = some params.pairs ∧
      (∀ other : Params, (∀ p ∈ other, IsPlainKey p.key) →
        other.queryString = params.queryString → other.pairs = params.pairs) ∧
      ∀ (i : Nat) (value : String), pairsOfQuery? (params.setValue i value).queryString =
        some (params.pairs.modify i fun pair => (pair.1, value)) := by
  refine ⟨pairsOfQuery?_queryString h, fun other ho he => pairs_eq_of_queryString_eq ho h he,
    fun i value => ?_⟩
  have hk : ∀ key ∈ (params.setValue i value).map Param.key, IsPlainKey key := by
    rw [map_key_setValue]
    exact List.forall_mem_map.mpr h
  rw [pairsOfQuery?_queryString (List.forall_mem_map.mp hk), pairs_setValue]

/-- Values that hold separators, that look encoded already or that are empty, under a key without a
name. -/
theorem separators_in_values_read_back :
    let params : Params := [⟨.filters, "filters[name][$eq]", "a&b=c%26+[é]!"⟩, ⟨.sort, "", "="⟩,
      ⟨.search, "q", ""⟩]
    (∀ p ∈ params, IsPlainKey p.key) ∧
      params.queryString = "filters[name][$eq]=a%26b%3Dc%2526%2B%5B%C3%A9%5D!&=%3D&q=" ∧
      pairsOfQuery? params.queryString = some params.pairs := by
  intro params
  have h : ∀ p ∈ params, IsPlainKey p.key := by decide
  exact ⟨h, by decide +kernel, (queryString_determines_pairs params h).1⟩

end Params

end BracketQuery
