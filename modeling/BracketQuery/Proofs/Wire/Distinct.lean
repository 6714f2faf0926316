import Mathlib.Data.List.Nodup
import BracketQuery.Proofs.Wire.Cover

/-!
Parameters no two of which have the same key. What is sent below different names is kept apart by
the names, so keys are distinct if they are so below each name.
-/

namespace BracketQuery.Params

/-- No two parameters have the same key. -/
def HasDistinctKeys (params : Params) : Prop := (params.map Param.key).Nodup

namespace HasDistinctKeys

variable {params xs ys : Params}

/-- Look-up finds the parameter itself. -/
theorem get?_key (h : params.HasDistinctKeys) {p : Param} (hp : p ∈ params) :
    params.get? p.key = some p.value := by
  induction params with
  | nil => cases hp
  | cons q rest ih =>
      obtain ⟨hq, hr⟩ := List.nodup_cons.mp h
      rcases List.mem_cons.mp hp with rfl | hp
      · simp [get?]
      · have hne : q.key ≠ p.key := fun e => hq (e ▸ List.mem_map_of_mem hp)
        simpa [get?, hne] using ih hr hp

theorem nil : HasDistinctKeys [] := List.nodup_nil

theorem singleton (p : Param) : HasDistinctKeys [p] := List.nodup_singleton p.key

theorem map {f : Param → Param} (hf : ∀ p, (f p).key = p.key) (h : params.HasDistinctKeys) :
    HasDistinctKeys (params.map f) := by
  have hk : Param.key ∘ f = Param.key := funext hf
  rwa [HasDistinctKeys, List.map_map, hk]

theorem append (hx : xs.HasDistinctKeys) (hy : ys.HasDistinctKeys)
    (hne : ∀ p ∈ xs, ∀ q ∈ ys, p.key ≠ q.key) : (xs ++ ys).HasDistinctKeys := by
  rw [HasDistinctKeys, List.map_append, List.nodup_append]
  refine ⟨hx, hy, fun k hk l hl => ?_⟩
  obtain ⟨p, hp, rfl⟩ := List.mem_map.mp hk
  obtain ⟨q, hq, rfl⟩ := List.mem_map.mp hl
  exact hne p hp q hq

theorem flatMap {α : Type} {f : α → Params} {items : List α}
    (hf : ∀ x ∈ items, (f x).HasDistinctKeys)
    (hne : items.Pairwise fun x y => ∀ p ∈ f x, ∀ q ∈ f y, p.key ≠ q.key) :
    HasDistinctKeys (items.flatMap f) := by
  rw [HasDistinctKeys, List.map_flatMap, List.nodup_flatMap]
  refine ⟨hf, hne.imp fun h k hk hk' => ?_⟩
  obtain ⟨p, hp, rfl⟩ := List.mem_map.mp hk
  obtain ⟨q, hq, he⟩ := List.mem_map.mp hk'
  exact h p hp q hq he.symm

/-- Items that send below their names, where the names are distinct and hold no closing bracket. -/
theorem flatMap_below {α : Type} {name : α → String} {f : α → Params} {items : List α}
    (path : KeyPath) (hn : (items.map name).Nodup) (hc : ∀ x ∈ items, ']' ∉ (name x).toList)
    (hcovers : ∀ x ∈ items, ∀ p ∈ f x, (path.child (name x)).Covers p.key)
    (hf : ∀ x ∈ items, (f x).HasDistinctKeys) : HasDistinctKeys (items.flatMap f) := by
  refine flatMap hf ((List.pairwise_map.mp hn).imp_of_mem fun {x y} hx hy hxy p hp q hq he => ?_)
  have hq' := hcovers y hy q hq
  rw [← he] at hq'
  exact hxy ((hcovers x hx p hp).name_eq (hc x hx) (hc y hy) hq')

end HasDistinctKeys

theorem lowerIndexed_distinct (category : Category) (path : KeyPath) (values : List String) :
    HasDistinctKeys (lowerIndexed category path values) := by
  have hk : (lowerIndexed category path values).map Param.key =
      (List.range values.length).map fun i => (path.index i).text := by
    apply List.ext_getElem
    · simp [lowerIndexed]
    · intro i _ _
      simp [lowerIndexed]
  rw [HasDistinctKeys, hk]
  refine List.nodup_range.map fun i j he => ?_
  have hj := (path.index j).covers_text
  rw [← he] at hj
  exact (path.index i).covers_text.index_eq hj

end BracketQuery.Params
