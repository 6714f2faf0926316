import BracketQuery.Proofs.Wire.Place

/-!
Two lists of parameters that are the same under a condition, and whose keys differ without it.
-/

namespace BracketQuery.Params

/-- Parameters are the same under a condition; that they differ without it is seen from their keys,
provided that the names in the keys are plain. -/
structure SameIff (plain : Prop) (first second : Params) (condition : Prop) : Prop where
  eq_of : condition → first = second
  of_keys : plain → first.map Param.key = second.map Param.key → condition

/-- All keys lie below names of a kind, and the names are plain. -/
def Under (path : KeyPath) (named : String → Prop) (params : Params) : Prop :=
  ∀ p ∈ params, ∃ name, named name ∧ IsPlainName name ∧ (path.child name).Reaches p.key

theorem Under.of_child {path : KeyPath} {name : String} {params : Params} (hn : IsPlainName name)
    (h : ∀ p ∈ params, (path.child name).Reaches p.key) : params.Under path (· = name) :=
  fun p hp => ⟨name, rfl, hn, h p hp⟩

theorem Under.map {path : KeyPath} {named : String → Prop} {params : Params} {f : Param → Param}
    (hf : ∀ p, (f p).key = p.key) (h : params.Under path named) :
    Under path named (params.map f) := by
  intro p hp
  obtain ⟨q, hq, rfl⟩ := List.mem_map.mp hp
  exact hf q ▸ h q hq

theorem Under.append {path : KeyPath} {named named' : String → Prop} {params params' : Params}
    (h : params.Under path named) (h' : params'.Under path named') :
    (params ++ params').Under path (fun name => named name ∨ named' name) := by
  intro p hp
  rcases List.mem_append.mp hp with hp | hp
  · obtain ⟨name, hname, hr⟩ := h p hp
    exact ⟨name, .inl hname, hr⟩
  · obtain ⟨name, hname, hr⟩ := h' p hp
    exact ⟨name, .inr hname, hr⟩

/-- Some place holds all keys of the first two lists and none of the other two. -/
def Apart (first second first' second' : Params) : Prop :=
  ∃ place : String → Prop, (∀ p ∈ first ++ second, place p.key) ∧
    ∀ p ∈ first' ++ second', ¬ place p.key

/-- Keys below names of one kind are apart from keys below names of another. -/
theorem Apart.of_under {path : KeyPath} {named named' : String → Prop}
    {first second first' second' : Params} (hne : ∀ name, named name → ¬ named' name)
    (hf : first.Under path named) (hs : second.Under path named)
    (hf' : first'.Under path named') (hs' : second'.Under path named') :
    Apart first second first' second' := by
  have hin : (first ++ second).Under path named := List.forall_mem_append.mpr ⟨hf, hs⟩
  have hout : (first' ++ second').Under path named' := List.forall_mem_append.mpr ⟨hf', hs'⟩
  refine ⟨fun key => ∃ name, named name ∧ IsPlainName name ∧ (path.child name).Reaches key, hin, ?_⟩
  rintro p hp ⟨name, hname, hn, hr⟩
  obtain ⟨name', hname', hn', hr'⟩ := hout p hp
  obtain rfl := KeyPath.Reaches.name_eq hn hn' hr hr'
  exact hne name hname hname'

namespace SameIff

variable {plain condition condition' : Prop} {first second first' second' : Params}

theorem refl (plain : Prop) (params : Params) : SameIff plain params params True :=
  ⟨fun _ => rfl, fun _ _ => trivial⟩

theorem congr (h : SameIff plain first second condition) (hc : condition ↔ condition') :
    SameIff plain first second condition' :=
  ⟨fun hc' => h.eq_of (hc.mpr hc'), fun hp hk => hc.mp (h.of_keys hp hk)⟩

theorem filter_keys {place : String → Prop} [DecidablePred place] {xs ys : Params}
    (hx : ∀ p ∈ xs, place p.key) (hy : ∀ p ∈ ys, ¬ place p.key) :
    ((xs ++ ys).map Param.key).filter (place ·) = xs.map Param.key ∧
      ((xs ++ ys).map Param.key).filter (¬ place ·) = ys.map Param.key := by
  have hxk : ∀ k ∈ xs.map Param.key, place k := List.forall_mem_map.mpr hx
  have hyk : ∀ k ∈ ys.map Param.key, ¬ place k := List.forall_mem_map.mpr hy
  constructor
  · rw [List.map_append, List.filter_append, List.filter_eq_self.mpr (by simpa using hxk),
      List.filter_eq_nil_iff.mpr (by simpa using hyk), List.append_nil]
  · rw [List.map_append, List.filter_append, List.filter_eq_nil_iff.mpr (by simpa using hxk),
      List.filter_eq_self.mpr (by simpa using hyk), List.nil_append]

theorem append (h : SameIff plain first second condition)
    (h' : SameIff plain first' second' condition')
    (hapart : plain → Apart first second first' second') :
    SameIff plain (first ++ first') (second ++ second') (condition ∧ condition') := by
  refine ⟨fun hc => by rw [h.eq_of hc.1, h'.eq_of hc.2], fun hp hk => ?_⟩
  obtain ⟨place, hin, hout⟩ := hapart hp
  classical
  obtain ⟨hf, hs⟩ := List.forall_mem_append.mp hin
  obtain ⟨hf', hs'⟩ := List.forall_mem_append.mp hout
  obtain ⟨hfirst, hfirst'⟩ := filter_keys hf hf'
  obtain ⟨hsecond, hsecond'⟩ := filter_keys hs hs'
  exact ⟨h.of_keys hp (by rw [← hfirst, ← hsecond, hk]),
    h'.of_keys hp (by rw [← hfirst', ← hsecond', hk])⟩

theorem append_same (h : SameIff plain first second condition) (rest : Params) :
    SameIff plain (first ++ rest) (second ++ rest) condition := by
  refine ⟨fun hc => congrArg (· ++ rest) (h.eq_of hc), fun hp hk => h.of_keys hp ?_⟩
  rw [List.map_append, List.map_append] at hk
  exact List.append_cancel_right hk

theorem map (f : Param → Param) (hf : ∀ p, (f p).key = p.key)
    (h : SameIff plain first second condition) :
    SameIff plain (first.map f) (second.map f) condition := by
  have hkey : Param.key ∘ f = Param.key := funext hf
  refine ⟨fun hc => congrArg (List.map f) (h.eq_of hc), fun hp hk => h.of_keys hp ?_⟩
  simpa [List.map_map, hkey] using hk

end SameIff

end BracketQuery.Params
