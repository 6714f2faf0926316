import Mathlib.Data.List.TakeWhile
import BracketQuery.Proofs.Url.Query
import BracketQuery.Proofs.Wire.QueryString
import BracketQuery.Wire.Url

/-!
Parameters joined onto a base URL. The URL keeps what stands before its query and after it, and its
own query without the separators at the end; behind that stands what a part of a URL writes of the
query string. It stands for the same keys and values unless a key holds a tab or a line break, which
no URL holds.
-/

namespace BracketQuery

open Url (isTabOrNewline queryPart pairsOf)

theorem Percent.isTabOrNewline_of_isComponent : ∀ byte : UInt8, isComponent byte = true →
    isTabOrNewline (Char.ofNat byte.toNat) = false :=
  forall_byte (by decide +kernel)

theorem Percent.isTabOrNewline_of_mem_sendByte {byte : UInt8} {c : Char} (h : c ∈ sendByte byte) :
    isTabOrNewline c = false := by
  rw [sendByte_eq] at h
  split at h
  · rename_i hc
    rw [List.mem_singleton.mp h]
    exact isTabOrNewline_of_isComponent byte hc
  · rcases Url.mem_escapeByte h with rfl | hx
    · decide
    · exact Url.not_isTabOrNewline_of_isHexDigit hx

theorem Percent.isTabOrNewline_of_mem_encode {value : String} :
    ∀ c ∈ (encode value).toList, isTabOrNewline c = false := by
  intro c hc
  rw [toList_encode] at hc
  obtain ⟨byte, _, hb⟩ := List.mem_flatMap.mp hc
  exact isTabOrNewline_of_mem_sendByte hb

namespace Params

/-! ## The query string -/

theorem forall_mem_intercalate_iff {p : Char → Prop} {separator : Char} (h : p separator)
    (pieces : List (List Char)) :
    (∀ c ∈ [separator].intercalate pieces, p c) ↔ ∀ piece ∈ pieces, ∀ c ∈ piece, p c := by
  induction pieces with
  | nil => simp
  | cons piece rest ih =>
      cases rest with
      | nil => simp
      | cons next rest =>
          rw [List.intercalate_cons_cons, List.forall_mem_append, List.forall_mem_append, ih,
            List.forall_mem_cons]
          simp [h]

/-- Values are sent without tabs and line breaks, so those of a query string are those of the
keys. -/
theorem forall_mem_queryString_iff (params : Params) :
    (∀ c ∈ params.queryString.toList, isTabOrNewline c = false) ↔
      ∀ p ∈ params, ∀ c ∈ p.key.toList, isTabOrNewline c = false := by
  have ham : isTabOrNewline '&' = false := by decide
  have hem : isTabOrNewline '=' = false := by decide
  rw [toList_queryString, forall_mem_intercalate_iff ham, List.forall_mem_map]
  refine forall₂_congr fun p _ => ?_
  rw [Param.piece, List.forall_mem_append, List.forall_mem_cons]
  exact and_iff_left ⟨hem, Percent.isTabOrNewline_of_mem_encode⟩

/-! ## The query of the base -/

/-- The separators at the end of a query are left out, and nothing else. -/
theorem trimSeparators_spec (query : List Char) :
    (∃ n, query = trimSeparators query ++ List.replicate n '&') ∧
      (trimSeparators query).getLast? ≠ some '&' := by
  constructor
  · let trailing := query.reverse.takeWhile (· == '&')
    have hall : ∀ c ∈ trailing, c = '&' := fun c hc => by
      simpa using List.mem_takeWhile_imp hc
    have hr : trailing.reverse = List.replicate trailing.length '&' := by
      rw [← List.reverse_replicate, ← List.eq_replicate_of_mem hall]
    refine ⟨trailing.length, ?_⟩
    calc query = (trailing ++ query.reverse.dropWhile (· == '&')).reverse := by
          rw [List.takeWhile_append_dropWhile, List.reverse_reverse]
      _ = trimSeparators query ++ trailing.reverse := List.reverse_append
      _ = trimSeparators query ++ List.replicate trailing.length '&' := by rw [hr]
  · intro h
    have hn := List.head?_dropWhile_not (· == '&') query.reverse
    rw [trimSeparators, List.getLast?_reverse] at h
    rw [h] at hn
    simp at hn

theorem mem_of_mem_trimSeparators {query : List Char} {c : Char} (h : c ∈ trimSeparators query) :
    c ∈ query := by
  obtain ⟨n, hn⟩ := (trimSeparators_spec query).1
  rw [hn]
  exact List.mem_append_left _ h

/-- What a parsed URL has of its query is written as it is again. -/
theorem flatMap_take_trimSeparators {base : String} {parsed : Url}
    (h : Url.parse base = .ok parsed) :
    (trimSeparators (parsed.query.getD "").toList).flatMap (queryPart parsed.scheme).take =
      trimSeparators (parsed.query.getD "").toList := by
  obtain ⟨source, hs⟩ := Url.givesWrittenQuery_parse base parsed h
  cases source with
  | none =>
      rw [hs]
      rfl
  | some written =>
      rw [hs]
      exact Url.Part.flatMap_take_of_written fun c hc => mem_of_mem_trimSeparators hc

/-! ## The URL -/

/-- The query string as a part of a URL writes it. -/
def added (params : Params) (scheme : String) : String :=
  String.ofList (params.queryString.toList.flatMap (queryPart scheme).take)

theorem text_attach {params : Params} (hne : params ≠ []) {base : String} {parsed : Url}
    (h : Url.parse base = .ok parsed) :
    let present := trimSeparators (parsed.query.getD "").toList
    (params.attach parsed).text =
      parsed.beforeQuery ++ "?" ++ (if present = [] then "" else String.ofList present ++ "&") ++
        params.added parsed.scheme ++ parsed.afterQuery := by
  intro present
  have hp : present.flatMap (queryPart parsed.scheme).take = present :=
    flatMap_take_trimSeparators h
  have ha : (queryPart parsed.scheme).take '&' = ['&'] :=
    (Url.Part.take_separates (Url.queryPart_separators parsed.scheme).1 (by decide) (by decide)).kept
  have hattach : params.attach parsed = parsed.withQuery
      (if present.isEmpty then params.queryString.toList
        else present ++ '&' :: params.queryString.toList) :=
    if_neg (by simpa using hne)
  rw [hattach, Url.text_withQuery]
  by_cases hn : present = []
  · simp [hn, added, String.append_assoc]
  · simp [hn, added, hp, ha, String.append_assoc, String.ofList_append, String.ofList_cons]

/-- A URL is made of a base exactly if the base is a URL. Without parameters it is the base as it is
written. Otherwise it is the text of the base before its query, a question mark, the query of the
base without the separators at its end and then a separator if anything is left of it, what is joined
to it, and the fragment of the base; and what is joined stands for the same keys and values as the
query string exactly if no key holds a tab or a line break. -/
theorem url_eq (params : Params) (base : String) :
    match Url.parse base with
    | .error e => params.url base = .error e
    | .ok parsed =>
      if params = [] then params.url base = .ok parsed.text
      else ∃ present joined : String,
        (∃ n, (parsed.query.getD "").toList = present.toList ++ List.replicate n '&') ∧
          present.toList.getLast? ≠ some '&' ∧
          params.url base = .ok (parsed.beforeQuery ++ "?" ++
            (if present = "" then "" else present ++ "&") ++ joined ++ parsed.afterQuery) ∧
          (pairsOf joined.toList = pairsOf params.queryString.toList ↔
            ∀ p ∈ params, ∀ c ∈ p.key.toList, isTabOrNewline c = false) := by
  cases h : Url.parse base with
  | error e =>
      simp only
      rw [url, h]
      rfl
  | ok parsed =>
      by_cases hne : params = []
      · subst hne
        simp only [↓reduceIte]
        rw [url, h]
        rfl
      · have hparts := Url.queryPart_separators parsed.scheme
        have htrim := trimSeparators_spec (parsed.query.getD "").toList
        have hurl : params.url base = .ok (params.attach parsed).text := by
          rw [url, h]
          rfl
        simp only [hne, ↓reduceIte]
        refine ⟨String.ofList (trimSeparators (parsed.query.getD "").toList),
          params.added parsed.scheme, ?_, ?_, ?_, ?_⟩
        · rw [String.toList_ofList]
          exact htrim.1
        · rw [String.toList_ofList]
          exact htrim.2
        · rw [hurl, text_attach hne h]
          simp
        · rw [added, String.toList_ofList, ← forall_mem_queryString_iff]
          exact Url.pairsOf_flatMap_take_eq_iff hparts.1 hparts.2 _

/-- A tab in a name is sent in a query string, and not in a URL. -/
theorem tab_lost_in_url :
    let params : Params := [⟨.filters, "filters[first	name]", "x"⟩]
    params.queryString = "filters[first	name]=x" ∧
      (params.url "api:orders?x=1#f").toOption = some "api:orders?x=1&filters[firstname]=x#f" ∧
      pairsOf "filters[firstname]=x".toList ≠ pairsOf params.queryString.toList := by
  decide +kernel

end Params

end BracketQuery
