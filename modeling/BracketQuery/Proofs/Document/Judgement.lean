import BracketQuery.Proofs.Document.Stripping
import BracketQuery.Proofs.Filter.Idle
import BracketQuery.Proofs.Wire.Agreement

/-!
Objects that are taken for comparisons because of a null. Without its null members such an object
is taken for conditions, and what it sends is the same exactly if it has no member that is read in
one way as a comparison and in another as a condition and sends something in either.
-/

namespace BracketQuery

namespace Json

/-! ## Members that send nothing -/

theorem sendOperand_eq_nil_of {path path' : KeyPath} {value : Json}
    (h : value.sendOperand path = []) : value.sendOperand path' = [] := by
  unfold sendOperand at h ⊢
  cases ho : Operand.ofJson? value with
  | none => rfl
  | some operand =>
      rw [ho] at h
      exact Operand.lower_eq_nil_iff.mpr (Operand.lower_eq_nil_iff.mp h)

theorem sendValue_eq_nil_of {path path' : KeyPath} {key : String} {value : Json}
    (h : value.sendValue path key = []) : value.sendValue path' key = [] := by
  unfold sendValue at h ⊢
  cases hv : (FilterValue.ofJson? key value).value with
  | none => rfl
  | some condition =>
      rw [hv] at h
      exact (condition.lower_eq_nil_iff path').mpr ((condition.lower_eq_nil_iff path).mp h)

/-! ## Members -/

/-- A document that is read in one way as the operand of an operator, and in another as the
condition under a key. -/
def IsAmbiguousUnder (key : String) : Json → Prop
  | .object _ => True
  | .array _ => IsCombinator key
  | .null | .boolean _ | .number _ | .string _ => False

/-- An ambiguous document that sends something as an operand, or as a condition without its null
members. -/
def IsMisreadUnder (key : String) (value : Json) : Prop :=
  value.IsAmbiguousUnder key ∧
    ∃ path, value.sendOperand path ≠ [] ∨ value.stripNulls.sendValue path key ≠ []

theorem sendScalars_stripNulls (path : KeyPath) (elements : List Json) :
    sendScalars path (elements.map stripNulls) = sendScalars path elements := by
  have h : Scalar.ofJson? ∘ stripNulls = Scalar.ofJson? := funext scalarOfJson?_stripNulls
  rw [sendScalars, List.filterMap_map, h, sendScalars]

theorem sendOperand_stripNulls (path : KeyPath) (value : Json) :
    value.stripNulls.sendOperand path = value.sendOperand path := by
  cases value with
  | array elements => rw [stripNulls_array]; exact sendScalars_stripNulls path elements
  | _ => rfl

theorem sendValue_of_not_ambiguous {key : String} {value : Json} (path : KeyPath)
    (h : ¬ value.IsAmbiguousUnder key) :
    value.stripNulls.sendValue path key = value.sendOperand path := by
  cases value with
  | null => rfl
  | boolean _ | number _ | string _ => exact sendValue_of_scalar path key rfl
  | array elements =>
      have hk : ¬ IsCombinator key := h
      rw [stripNulls_array, sendValue_array, if_neg hk]
      exact sendScalars_stripNulls path elements
  | object _ => exact absurd trivial h

/-- A key of a list of values is no key of a group. -/
theorem sendScalars_eq_nil_of_keys {path : KeyPath} {key : String} {elements elements' : List Json}
    (hn : PlainElements elements')
    (h : (sendGroup path 0 key elements').map Param.key =
      (sendScalars path elements).map Param.key) : sendScalars path elements = [] := by
  refine List.eq_nil_iff_forall_not_mem.mpr fun p hp => ?_
  have hk : p.key ∈ (sendGroup path 0 key elements').map Param.key :=
    h ▸ List.mem_map_of_mem hp
  obtain ⟨q, hq, he⟩ := List.mem_map.mp hk
  obtain ⟨j, name, _, hname, hr⟩ := sendGroup_reaches path key elements' 0 hn q hq
  obtain ⟨i, _, rfl⟩ := List.mem_mapIdx.mp hp
  exact KeyPath.not_reaches_index hname (he ▸ hr)

theorem eq_nil_of_keys_of_ambiguous {path : KeyPath} {key : String} {value : Json}
    (hn : value.HasPlainNames) (ha : value.IsAmbiguousUnder key)
    (h : (value.stripNulls.sendValue path key).map Param.key =
      (value.sendOperand path).map Param.key) :
    value.sendOperand path = [] ∧ value.stripNulls.sendValue path key = [] := by
  have ho : value.sendOperand path = [] := by
    cases value with
    | object _ => rfl
    | array elements =>
        have hk : IsCombinator key := ha
        rw [stripNulls_array, sendValue_array, if_pos hk] at h
        refine sendScalars_eq_nil_of_keys ?_ h
        have hs := hasPlainNames_stripNulls (.array elements) hn
        rwa [stripNulls_array] at hs
    | null | boolean _ | number _ | string _ => exact ha.elim
  rw [ho, List.map_nil, List.map_eq_nil_iff] at h
  exact ⟨ho, h⟩

/-- A member of comparisons, and the same member as a condition without its null members, send the
same exactly if it is not misread. -/
theorem sameIff_member {plain : Prop} (path : KeyPath) (key : String) {value : Json}
    (hn : plain → value.HasPlainNames) :
    Params.SameIff plain (value.stripNulls.sendValue path key) (value.sendOperand path)
      (¬ value.IsMisreadUnder key) := by
  by_cases ha : value.IsAmbiguousUnder key
  · constructor
    · intro h
      have hnone : ¬ (value.sendOperand path ≠ [] ∨ value.stripNulls.sendValue path key ≠ []) :=
        fun hs => h ⟨ha, path, hs⟩
      rw [not_or, Classical.not_not, Classical.not_not] at hnone
      rw [hnone.1, hnone.2]
    · rintro hp hk ⟨_, path', hs⟩
      obtain ⟨ho, hv⟩ := eq_nil_of_keys_of_ambiguous (hn hp) ha hk
      exact hs.elim (· (sendOperand_eq_nil_of ho)) (· (sendValue_eq_nil_of hv))
  · rw [sendValue_of_not_ambiguous path ha]
    exact (Params.SameIff.refl plain _).congr ⟨fun _ hm => ha hm.1, fun _ => trivial⟩

/-! ## Objects -/

/-- Members that are taken for comparisons only because of null ones, and one of which is
misread. -/
def MisjudgedMembers (members : List (String × Json)) : Prop :=
  isOperatorMap (stripNullMembers members) = false ∧ ∃ m ∈ members, m.2.IsMisreadUnder m.1

theorem isOperatorMap_of_stripNullMembers {members : List (String × Json)}
    (h : isOperatorMap (stripNullMembers members) = true) : isOperatorMap members = true := by
  obtain ⟨m, hm, hk⟩ := List.any_eq_true.mp h
  obtain ⟨m', hm', _, rfl⟩ := mem_stripNullMembers.mp hm
  exact List.any_eq_true.mpr ⟨m', hm', hk⟩

/-- Members without the null ones send below the same names. -/
theorem exists_reaches_of_stripNullMembers {path : KeyPath} {key : String}
    {members : List (String × Json)}
    (h : ∃ m ∈ stripNullMembers members, (path.child m.1).Reaches key) :
    ∃ m ∈ members, (path.child m.1).Reaches key := by
  obtain ⟨m, hm, hr⟩ := h
  obtain ⟨m', hm', _, rfl⟩ := mem_stripNullMembers.mp hm
  exact ⟨m', hm', hr⟩

theorem under_of_members {path : KeyPath} {members : List (String × Json)} {params : Params}
    (hm : PlainMembers members) (h : ∀ p ∈ params, ∃ m ∈ members, (path.child m.1).Reaches p.key) :
    params.Under path (· ∈ members.map Prod.fst) := by
  intro p hp
  obtain ⟨m, hmem, hr⟩ := h p hp
  exact ⟨m.1, List.mem_map_of_mem hmem, ((plainMembers_iff members).mp hm m hmem).1, hr⟩

/-- What is sent below a name is apart from what is sent below the names of the other members. -/
theorem apart_of_members (path : KeyPath) {name : String} {members : List (String × Json)}
    {first second first' second' : Params} (hn : IsPlainName name) (hm : PlainMembers members)
    (hnot : name ∉ members.map Prod.fst)
    (hf : ∀ p ∈ first, (path.child name).Reaches p.key)
    (hs : ∀ p ∈ second, (path.child name).Reaches p.key)
    (hf' : ∀ p ∈ first', ∃ m ∈ members, (path.child m.1).Reaches p.key)
    (hs' : ∀ p ∈ second', ∃ m ∈ members, (path.child m.1).Reaches p.key) :
    Params.Apart first second first' second' := by
  refine .of_under ?_ (.of_child hn hf) (.of_child hn hs) (under_of_members hm hf')
    (under_of_members hm hs')
  rintro _ rfl
  exact hnot

theorem sameIff_comparisons {plain : Prop} (path : KeyPath) (members : List (String × Json))
    (hd : (members.map Prod.fst).Nodup) (hn : plain → PlainMembers members) :
    Params.SameIff plain (sendMembers path (stripNullMembers members))
      (members.flatMap fun m => m.2.sendOperand (path.child m.1))
      (∀ m ∈ members, ¬ m.2.IsMisreadUnder m.1) := by
  induction members with
  | nil => exact (Params.SameIff.refl plain []).congr (by simp)
  | cons member rest ih =>
      obtain ⟨name, value⟩ := member
      obtain ⟨hnot, hdr⟩ := List.nodup_cons.mp hd
      have hrest := ih hdr fun hp => (hn hp).2
      rw [List.flatMap_cons, List.forall_mem_cons]
      by_cases hv : value = .null
      · subst hv
        refine hrest.congr ⟨fun h => ⟨fun hm => hm.1, h⟩, And.right⟩
      · rw [stripNullMembers_cons hv, sendMembers_cons]
        refine (sameIff_member (path.child name) name fun hp => (hn hp).1.2).append hrest ?_
        intro hp
        obtain ⟨⟨hname, hvalue⟩, hplain⟩ := hn hp
        refine apart_of_members path hname hplain hnot ?_ ?_ ?_ ?_
        · exact sendValue_reaches _ _ _ (hasPlainNames_stripNulls value hvalue)
        · exact fun p hm => reaches_of_mem_sendOperand hm
        · exact fun p hm => exists_reaches_of_stripNullMembers
            (sendMembers_reaches path _ (plainMembers_stripNullMembers rest hplain) p hm)
        · intro p hm
          obtain ⟨m, hmem, hm⟩ := List.mem_flatMap.mp hm
          exact ⟨m, hmem, reaches_of_mem_sendOperand hm⟩

theorem sendOperands_stripNullMembers (path : KeyPath) (members : List (String × Json)) :
    (stripNullMembers members).flatMap (fun m => m.2.sendOperand (path.child m.1)) =
      members.flatMap fun m => m.2.sendOperand (path.child m.1) := by
  induction members with
  | nil => rfl
  | cons member rest ih =>
      obtain ⟨name, value⟩ := member
      by_cases hv : value = .null
      · subst hv
        exact ih
      · rw [stripNullMembers_cons hv, List.flatMap_cons, List.flatMap_cons, ih,
          sendOperand_stripNulls]

/-- An object that is taken for comparisons sends the same without its null members exactly if it
is not misjudged. -/
theorem sameIff_operatorMap {plain : Prop} (path : KeyPath) (key : String)
    {members : List (String × Json)} (ho : isOperatorMap members = true)
    (hd : (members.map Prod.fst).Nodup) (hn : plain → PlainMembers members) :
    Params.SameIff plain ((Json.object (stripNullMembers members)).sendValue path key)
      ((Json.object members).sendValue path key) (¬ MisjudgedMembers members) := by
  rw [sendValue_object, sendValue_object, if_pos ho]
  cases hs : isOperatorMap (stripNullMembers members) with
  | true =>
      rw [if_pos rfl, sendOperands_stripNullMembers]
      exact (Params.SameIff.refl plain _).congr (by simp [MisjudgedMembers, hs])
  | false =>
      refine (sameIff_comparisons path members hd hn).congr ?_
      simp [MisjudgedMembers, hs]

end Json

end BracketQuery
