import BracketQuery.Proofs.Document.Rereading

/-!
Which intents come back from the document they are written as: the canonical ones, that is the
regular ones all of whose comparisons can be recognized by a known operator.
-/

namespace BracketQuery

/-! ## Comparisons, field by field -/

mutual

/-- The comparisons in a condition, as a list for each field. -/
def FilterValue.fieldComparisons : FilterValue → List (List (Operator × Operand))
  | .operators comparisons => [comparisons]
  | .nested node => FilterNode.fieldComparisons node
  | .scalar _ | .list _ => []
  | .group members => FilterNode.fieldComparisonsOfMembers members

/-- The comparisons in a node, as a list for each field. -/
def FilterNode.fieldComparisons : FilterNode → List (List (Operator × Operand))
  | [] => []
  | (_, value) :: rest => FilterValue.fieldComparisons value ++ FilterNode.fieldComparisons rest

def FilterNode.fieldComparisonsOfMembers :
    List FilterNode → List (List (Operator × Operand))
  | [] => []
  | node :: rest =>
    FilterNode.fieldComparisons node ++ FilterNode.fieldComparisonsOfMembers rest

end

/-- The comparisons in the filter trees of an intent, as a list for each field. -/
def Intent.fieldComparisons (i : Intent) : List (List (Operator × Operand)) :=
  i.filterNodes.flatMap FilterNode.fieldComparisons

/-- Comparisons one of which has a known operator. -/
def Recognized (comparisons : List (Operator × Operand)) : Prop :=
  ∃ c ∈ comparisons, c.1 ∈ Operator.known

theorem recognized_iff {comparisons : List (Operator × Operand)}
    (h : ∀ c ∈ comparisons, c.1.IsProper ∧ c.2.IsFinite) :
    Recognized comparisons ↔ comparisons.any (fun c => Operator.isKnown c.1.spelling) = true := by
  rw [List.any_eq_true]
  constructor
  · rintro ⟨c, hc, hk⟩
    exact ⟨c, hc, Operator.isKnown_spelling_of_mem hk⟩
  · rintro ⟨c, hc, hk⟩
    exact ⟨c, hc, (Operator.isKnown_spelling_iff (h c hc).1).mp hk⟩

/-- A regular intent whose comparisons are recognized as such. -/
structure Intent.IsCanonical (i : Intent) : Prop where
  regular : i.IsRegular
  recognized : ∀ comparisons ∈ i.fieldComparisons, Recognized comparisons

/-! ## What stays as it is -/

mutual

theorem FilterValue.reread_eq_self_iff (key : String) : (value : FilterValue) →
    value.IsRegular key →
      (value.reread = value ↔ ∀ comparisons ∈ value.fieldComparisons, Recognized comparisons)
  | .operators comparisons, ⟨_, hc⟩ => by
      simp only [FilterValue.reread, FilterValue.fieldComparisons, List.mem_singleton,
        forall_eq, recognized_iff hc]
      split
      · rename_i h
        simp [h]
      · rename_i h
        simp [h]
  | .nested node, ⟨hn, _⟩ => by
      simp only [FilterValue.reread, FilterValue.fieldComparisons, FilterValue.nested.injEq]
      exact FilterNode.reread_eq_self_iff node hn
  | .scalar _, _ => by simp [FilterValue.reread, FilterValue.fieldComparisons]
  | .list _, _ => by simp [FilterValue.reread, FilterValue.fieldComparisons]
  | .group members, ⟨_, hm⟩ => by
      simp only [FilterValue.reread, FilterValue.fieldComparisons, FilterValue.group.injEq]
      exact FilterNode.rereadMembers_eq_self_iff members hm

theorem FilterNode.reread_eq_self_iff : (node : FilterNode) → FilterNode.IsRegular node →
    (FilterNode.reread node = node ↔
      ∀ comparisons ∈ FilterNode.fieldComparisons node, Recognized comparisons)
  | [], _ => by simp [FilterNode.reread, FilterNode.fieldComparisons]
  | (key, value) :: rest, ⟨_, hv, hr⟩ => by
      simp only [FilterNode.reread, FilterNode.fieldComparisons, List.cons.injEq, Prod.mk.injEq,
        true_and, List.forall_mem_append]
      rw [FilterValue.reread_eq_self_iff key value hv, FilterNode.reread_eq_self_iff rest hr]

theorem FilterNode.rereadMembers_eq_self_iff : (members : List FilterNode) →
    FilterNode.AllRegular members →
      (FilterNode.rereadMembers members = members ↔
        ∀ comparisons ∈ FilterNode.fieldComparisonsOfMembers members, Recognized comparisons)
  | [], _ => by simp [FilterNode.rereadMembers, FilterNode.fieldComparisonsOfMembers]
  | node :: rest, ⟨hn, hr⟩ => by
      simp only [FilterNode.rereadMembers, FilterNode.fieldComparisonsOfMembers, List.cons.injEq,
        List.forall_mem_append]
      rw [FilterNode.reread_eq_self_iff node hn, FilterNode.rereadMembers_eq_self_iff rest hr]

end

theorem Intent.reread_eq_self_iff {i : Intent} (h : i.IsRegular) :
    i.reread = i ↔ ∀ comparisons ∈ i.fieldComparisons, Recognized comparisons := by
  rw [reread, Intent.mapFilters_eq_self_iff, fieldComparisons, List.forall_mem_flatMap]
  exact forall₂_congr fun node hn => FilterNode.reread_eq_self_iff node (h.nodes node hn)

/-- Whatever comes back from its document is regular. -/
theorem Intent.isRegular_of_read {i : Intent}
    (h : (Intent.ofJson? i.toJson).map Traced.value = .ok i) : i.IsRegular := by
  have hd := i.isReadable_toJson
  rw [Intent.toJson] at h hd
  rw [Intent.value_ofJson?_object] at h
  exact Except.ok.inj h ▸ Intent.isRegular_ofMembers hd

/-- Reading the document that an intent is written as gives the intent back exactly if it is
canonical. -/
theorem Intent.read_write_eq_self_iff (i : Intent) :
    (Intent.ofJson? i.toJson).map Traced.value = .ok i ↔ i.IsCanonical := by
  constructor
  · intro h
    have hr := i.isRegular_of_read h
    rw [Intent.value_ofJson?_toJson hr] at h
    exact ⟨hr, (Intent.reread_eq_self_iff hr).mp (Except.ok.inj h)⟩
  · rintro ⟨hr, hk⟩
    rw [Intent.value_ofJson?_toJson hr, (Intent.reread_eq_self_iff hr).mpr hk]

end BracketQuery
