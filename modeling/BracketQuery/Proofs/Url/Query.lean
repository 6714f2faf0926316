import BracketQuery.Proofs.Url.Encoding

/-!
The query of a URL. What a parsed URL has of it is written already, so it stays as it is when more
is written behind it; and what it stands for are the pairs of keys and values between its ampersands.
-/

namespace BracketQuery.Url

open Text (isHexDigit)

/-! ## The query of a parsed URL -/

/-- The part as which the query of a URL with a scheme is written. -/
def queryPart (scheme : String) : Part :=
  if isSpecialScheme scheme then .specialQuery else .query

/-- A query holds the separators of pairs, and of keys and values, as they are. -/
theorem queryPart_separators (scheme : String) :
    (queryPart scheme).encodeChar '&' = ['&'] ∧ (queryPart scheme).encodeChar '=' = ['='] := by
  unfold queryPart
  split <;> decide

/-- The query of a URL is written as the part that its scheme calls for. -/
def HasWrittenQuery (url : Url) : Prop :=
  ∃ source : Option (List Char), url.query = source.map (queryPart url.scheme).encode

/-- Every URL that comes of a computation has its query written. -/
def GivesWrittenQuery (x : Except Error Url) : Prop := ∀ url, x = .ok url → url.HasWrittenQuery

namespace GivesWrittenQuery

variable {α : Type} {c : Prop} [Decidable c] {x y : Except Error Url}

theorem ok {url : Url} (h : url.HasWrittenQuery) : GivesWrittenQuery (.ok url) := by
  rintro _ ⟨rfl⟩
  exact h

theorem bind {first : Except Error α} {f : α → Except Error Url}
    (h : ∀ a, GivesWrittenQuery (f a)) : GivesWrittenQuery (first >>= f) := by
  intro url hu
  cases first with
  | error _ => cases hu
  | ok a => exact h a url hu

theorem ite (hx : GivesWrittenQuery x) (hy : GivesWrittenQuery y) :
    GivesWrittenQuery (if c then x else y) := by
  split
  · exact hx
  · exact hy

/-- A computation that is given up under a condition. -/
theorem guarded {e : Error} {f : α → Except Error Url} (hx : GivesWrittenQuery x) :
    GivesWrittenQuery (if c then throw e >>= f else x) := by
  refine ite (fun url hu => ?_) hx
  cases hu

end GivesWrittenQuery

theorem givesWrittenQuery_parseAuthority (scheme : String) (text : List Char) :
    GivesWrittenQuery (parseAuthority scheme text) := by
  unfold parseAuthority
  extract_lets special ends
  split
  split
  refine .guarded ?_
  split
  split
  -- The two ways to read the host go on alike.
  refine .guarded (.ite (.bind fun host => .guarded ?_) (.bind fun host => .guarded ?_))
  all_goals
    split
    exact .bind fun port => .ok ⟨_, rfl⟩

theorem givesWrittenQuery_parseFile (text : List Char) : GivesWrittenQuery (parseFile text) := by
  unfold parseFile
  refine .bind fun file => .ok ?_
  refine ⟨(splitTail file.2.2).query.map (List.filter (!isTabOrNewline ·)), ?_⟩
  rw [Option.map_map]
  rfl

theorem hasWrittenQuery_of_parseWithoutAuthority {scheme : String}
    (h : ¬ isSpecialScheme scheme = true) (text : List Char) :
    (parseWithoutAuthority scheme text).HasWrittenQuery := by
  refine ⟨(splitTail text).query, ?_⟩
  have hp : queryPart (parseWithoutAuthority scheme text).scheme = .query := if_neg h
  rw [hp]
  rfl

theorem givesWrittenQuery_parse (base : String) : GivesWrittenQuery (parse base) := by
  unfold parse
  extract_lets written
  split
  · intro url hu
    cases hu
  · rename_i scheme rest _
    refine .ite (givesWrittenQuery_parseFile _) ?_
    split
    · exact givesWrittenQuery_parseAuthority _ _
    · rename_i hs
      split
      · exact givesWrittenQuery_parseAuthority _ _
      · exact .ok (hasWrittenQuery_of_parseWithoutAuthority hs _)

/-! ## Writing a query -/

/-- A character as a part takes it into a URL: not at all if it is a tab or a line break. -/
def Part.take (part : Part) (c : Char) : List Char :=
  if isTabOrNewline c then [] else part.encodeChar c

theorem Part.flatMap_take (part : Part) (text : List Char) :
    text.flatMap part.take = (text.filter (!isTabOrNewline ·)).flatMap part.encodeChar := by
  induction text with
  | nil => rfl
  | cons c rest ih => cases hc : isTabOrNewline c <;> simp [take, hc, ih]

theorem text_withQuery (url : Url) (query : List Char) :
    (url.withQuery query).text =
      url.beforeQuery ++ ("?" ++ String.ofList (query.flatMap (queryPart url.scheme).take)) ++
        url.afterQuery := by
  rw [Part.flatMap_take]
  rfl

/-- What is written already is taken as it is. -/
theorem Part.flatMap_take_of_written {part : Part} {source text : List Char}
    (h : ∀ c ∈ text, c ∈ (part.encode source).toList) : text.flatMap part.take = text := by
  induction text with
  | nil => rfl
  | cons c rest ih =>
      obtain ⟨hc, hr⟩ := List.forall_mem_cons.mp h
      rw [encode, String.toList_ofList] at hc
      obtain ⟨x, _, hx⟩ := List.mem_flatMap.mp hc
      rw [List.flatMap_cons, ih hr, take, isTabOrNewline_of_mem_encodeChar hx,
        encodeChar_of_mem_encodeChar hx]
      rfl

/-! ## Separators -/

/-- A way to write characters that leaves a separator as it is and writes no other character with
it. -/
structure Separates (separator : Char) (f : Char → List Char) : Prop where
  kept : f separator = [separator]
  notMem : ∀ c, c ≠ separator → separator ∉ f c

theorem Part.take_separates {part : Part} {separator : Char}
    (hkept : part.encodeChar separator = [separator]) (hp : separator ≠ '%')
    (hx : isHexDigit separator = false) : Separates separator part.take := by
  have hmem : separator ∈ part.encodeChar separator := hkept ▸ List.mem_cons_self
  have ht := isTabOrNewline_of_mem_encodeChar hmem
  refine ⟨?_, fun c hc hm => ?_⟩
  · rw [take, ht]
    exact hkept
  · unfold take at hm
    split at hm
    · cases hm
    · rcases mem_encodeChar hm with ⟨_, he⟩ | he | he
      · exact hc he.symm
      · exact hp he
      · rw [hx] at he
        cases he

theorem splitOn_append_of_notMem {separator : Char} {xs : List Char} (h : separator ∉ xs)
    (rest : List Char) :
    (xs ++ rest).splitOn separator = (rest.splitOn separator).modifyHead (xs ++ ·) := by
  induction xs with
  | nil => cases hs : rest.splitOn separator <;> simp [hs]
  | cons c xs ih =>
      have hc : (c == separator) = false :=
        beq_eq_false_iff_ne.mpr fun he => h (he ▸ List.mem_cons_self)
      rw [List.cons_append, List.splitOn_cons_eq_if_modifyHead, hc,
        ih fun hm => h (List.mem_cons_of_mem c hm), List.modifyHead_modifyHead]
      rfl

theorem Separates.splitOn_flatMap {separator : Char} {f : Char → List Char}
    (h : Separates separator f) (text : List Char) :
    (text.flatMap f).splitOn separator = (text.splitOn separator).map (List.flatMap f) := by
  induction text with
  | nil => simp
  | cons c rest ih =>
      rw [List.flatMap_cons, List.splitOn_cons_eq_if_modifyHead]
      by_cases hc : c = separator
      · subst hc
        rw [h.kept, List.singleton_append, List.splitOn_cons_eq_if_modifyHead, ih]
        simp
      · rw [splitOn_append_of_notMem (h.notMem c hc), ih]
        cases rest.splitOn separator <;> simp [hc]

/-- What holds of a separator holds of all characters of a text if it does so of its pieces. -/
theorem forall_mem_splitOn_iff {p : Char → Prop} {separator : Char} (h : p separator)
    (text : List Char) :
    (∀ piece ∈ text.splitOn separator, ∀ c ∈ piece, p c) ↔ ∀ c ∈ text, p c := by
  induction text with
  | nil => simp
  | cons c rest ih =>
      rw [List.splitOn_cons_eq_if_modifyHead, List.forall_mem_cons, ← ih]
      by_cases hc : c = separator
      · subst hc
        simp [h]
      · cases hs : rest.splitOn separator with
        | nil => exact absurd hs (List.splitOn_ne_nil _ _)
        | cons piece pieces => simp [hc, and_assoc]

/-! ## Keys and values -/

/-- The key and the value of a piece of a query: what stands before its first equals sign, and what
stands after it. -/
def halves (piece : List Char) : List Char × List Char :=
  (piece.takeWhile (· != '='), (piece.dropWhile (· != '=')).drop 1)

theorem halves_cons (c : Char) (rest : List Char) :
    halves (c :: rest) =
      if c = '=' then ([], rest) else (c :: (halves rest).1, (halves rest).2) := by
  by_cases hc : c = '=' <;> simp [halves, hc]

theorem halves_append_of_notMem {xs : List Char} (h : '=' ∉ xs) (rest : List Char) :
    halves (xs ++ rest) = (xs ++ (halves rest).1, (halves rest).2) := by
  induction xs with
  | nil => rfl
  | cons c xs ih =>
      have hc : c ≠ '=' := fun he => h (he ▸ List.mem_cons_self)
      rw [List.cons_append, halves_cons, if_neg hc, ih fun hm => h (List.mem_cons_of_mem c hm)]
      rfl

theorem halves_flatMap {f : Char → List Char} (h : Separates '=' f) (piece : List Char) :
    halves (piece.flatMap f) = ((halves piece).1.flatMap f, (halves piece).2.flatMap f) := by
  induction piece with
  | nil => rfl
  | cons c rest ih =>
      rw [List.flatMap_cons, halves_cons]
      by_cases hc : c = '='
      · subst hc
        rw [h.kept, List.singleton_append, halves_cons, if_pos rfl, if_pos rfl]
        rfl
      · rw [halves_append_of_notMem (h.notMem c hc), ih, if_neg hc]
        rfl

theorem forall_mem_halves_iff {p : Char → Prop} (h : p '=') (piece : List Char) :
    ((∀ c ∈ (halves piece).1, p c) ∧ ∀ c ∈ (halves piece).2, p c) ↔ ∀ c ∈ piece, p c := by
  induction piece with
  | nil => simp [halves]
  | cons c rest ih =>
      rw [halves_cons, List.forall_mem_cons, ← ih]
      by_cases hc : c = '='
      · subst hc
        simp [h, ih]
      · simp [hc, and_assoc]

/-- The keys and values that a query stands for, one pair for each piece between ampersands. -/
def pairsOf (query : List Char) : List (List UInt8 × List UInt8) :=
  (query.splitOn '&').map fun piece =>
    (percentDecode (halves piece).1, percentDecode (halves piece).2)

/-- A query as a part takes it into a URL stands for the same keys and values exactly if it holds no
tab and no line break. -/
theorem pairsOf_flatMap_take_eq_iff {part : Part} (ha : part.encodeChar '&' = ['&'])
    (he : part.encodeChar '=' = ['=']) (query : List Char) :
    pairsOf (query.flatMap part.take) = pairsOf query ↔
      ∀ c ∈ query, isTabOrNewline c = false := by
  have hamp := Part.take_separates ha (by decide) (by decide)
  have heq := Part.take_separates he (by decide) (by decide)
  have ham : isTabOrNewline '&' = false := by decide
  have hem : isTabOrNewline '=' = false := by decide
  rw [pairsOf, pairsOf, hamp.splitOn_flatMap, List.map_map, List.map_inj_left,
    ← forall_mem_splitOn_iff ham query]
  refine forall₂_congr fun piece _ => ?_
  rw [← forall_mem_halves_iff hem piece, Function.comp_apply, halves_flatMap heq]
  simp only [Part.flatMap_take, percentDecode_flatMap_encodeChar, Prod.mk.injEq,
    percentDecode_filter_eq_iff]

end BracketQuery.Url
