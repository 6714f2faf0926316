import BracketQuery.Proofs.Document.Judgement
import BracketQuery.Proofs.Normalization.Reconciliation
import BracketQuery.Proofs.Wire.QueryString

/-!
Documents with null members. A null member contributes nothing itself, but it can make the object
that holds it be taken for comparisons. A document compiles to the same query string without its
null members if no object in its filters is misjudged in this way, and if its names are plain, only
then.
-/

namespace BracketQuery.Json

/-! ## The objects that are taken for comparisons -/

mutual

/-- The objects taken for comparisons in the condition that a document states under a key. -/
def operatorMapsUnder (key : String) : Json → List (List (String × Json))
  | .object members => if isOperatorMap members then [members] else operatorMapsOfMembers members
  | .array elements => if IsCombinator key then operatorMapsOfGroup elements else []
  | .null | .boolean _ | .number _ | .string _ => []

def operatorMapsOfMembers : List (String × Json) → List (List (String × Json))
  | [] => []
  | (key, value) :: rest => operatorMapsUnder key value ++ operatorMapsOfMembers rest

def operatorMapsOfGroup : List Json → List (List (String × Json))
  | [] => []
  | .object members :: rest => operatorMapsOfMembers members ++ operatorMapsOfGroup rest
  | _ :: rest => operatorMapsOfGroup rest

end

/-- The objects taken for comparisons in the member of a name. -/
def operatorMapsOfMember (operatorMaps : Json → List (List (String × Json))) (name : String)
    (members : List (String × Json)) : List (List (String × Json)) :=
  match find? name members with
  | some value => operatorMaps value
  | none => []

/-- The objects taken for comparisons in the conditions of a relation or of an intent. -/
def operatorMapsOfFilters : Json → List (List (String × Json))
  | .object members => operatorMapsOfMembers members
  | _ => []

mutual

/-- The objects taken for comparisons in the filters of an inclusion, at any depth. -/
def operatorMapsOfInclusion : Json → List (List (String × Json))
  | .object members => operatorMapsOfRelations members
  | _ => []

def operatorMapsOfRelations : List (String × Json) → List (List (String × Json))
  | [] => []
  | (_, value) :: rest => operatorMapsOfRelation value ++ operatorMapsOfRelations rest

def operatorMapsOfRelation : Json → List (List (String × Json))
  | .object members =>
    operatorMapsOfInner members ++ operatorMapsOfMember operatorMapsOfFilters "filters" members
  | _ => []

def operatorMapsOfInner : List (String × Json) → List (List (String × Json))
  | [] => []
  | (name, value) :: rest =>
    if name = "populate" then operatorMapsOfInclusion value else operatorMapsOfInner rest

end

theorem operatorMapsOfInner_eq (members : List (String × Json)) :
    operatorMapsOfInner members =
      operatorMapsOfMember operatorMapsOfInclusion "populate" members := by
  induction members with
  | nil => rfl
  | cons member rest ih =>
      rw [operatorMapsOfInner, operatorMapsOfMember, find?_cons]
      split
      · rfl
      · exact ih

/-- The objects taken for comparisons in the document of an intent. -/
def operatorMaps (members : List (String × Json)) : List (List (String × Json)) :=
  operatorMapsOfMember operatorMapsOfFilters "filters" members ++
    operatorMapsOfMember operatorMapsOfInclusion "populate" members

/-- No object of a list is misjudged. -/
def WellJudged (operatorMaps : List (List (String × Json))) : Prop :=
  ∀ members ∈ operatorMaps, ¬ MisjudgedMembers members

theorem wellJudged_append {xs ys : List (List (String × Json))} :
    WellJudged xs ∧ WellJudged ys ↔ WellJudged (xs ++ ys) :=
  List.forall_mem_append.symm

/-! ## Filters -/

section

variable {plain : Prop}

theorem wellJudged_nil : True ↔ WellJudged [] := by simp [WellJudged]

theorem under_of_group {path : KeyPath} {key : String} {elements : List Json} (i : Nat)
    (hn : PlainElements elements) :
    (sendGroup path i key elements).Under path fun name => ∃ j, i ≤ j ∧ name = toString j := by
  intro p hp
  obtain ⟨j, name, hj, hname, hr⟩ := sendGroup_reaches path key elements i hn p hp
  exact ⟨toString j, ⟨j, hj, rfl⟩, isPlainName_toString j, hr.of_child hname⟩

mutual

theorem sameIff_value (path : KeyPath) (key : String) : (value : Json) → value.IsReadable →
    (plain → value.HasPlainNames) →
      Params.SameIff plain (value.stripNulls.sendValue path key) (value.sendValue path key)
        (WellJudged (operatorMapsUnder key value))
  | .object members, ⟨hd, hm⟩, hn => by
      rw [stripNulls_object]
      by_cases ho : isOperatorMap members = true
      · refine (sameIff_operatorMap path key ho hd hn).congr ?_
        simp [operatorMapsUnder, ho, WellJudged]
      · have hs : ¬ isOperatorMap (stripNullMembers members) = true :=
          fun h => ho (isOperatorMap_of_stripNullMembers h)
        rw [sendValue_object, sendValue_object, if_neg ho, if_neg hs, operatorMapsUnder, if_neg ho]
        exact sameIff_members path members hd hm hn
  | .array elements, he, hn => by
      rw [stripNulls, sendValue_array, sendValue_array, operatorMapsUnder]
      by_cases hk : IsCombinator key
      · rw [if_pos hk, if_pos hk, if_pos hk]
        exact sameIff_group path key elements 0 he hn
      · rw [if_neg hk, if_neg hk, if_neg hk, stripNullsOfElements_eq_map, sendScalars_stripNulls]
        exact (Params.SameIff.refl plain _).congr wellJudged_nil
  | .null, _, _ | .boolean _, _, _ | .number _, _, _ | .string _, _, _ =>
      (Params.SameIff.refl plain _).congr wellJudged_nil

theorem sameIff_members (path : KeyPath) : (members : List (String × Json)) →
    (members.map Prod.fst).Nodup → MembersReadable members → (plain → PlainMembers members) →
      Params.SameIff plain (sendMembers path (stripNullMembers members))
        (sendMembers path members) (WellJudged (operatorMapsOfMembers members))
  | [], _, _, _ => (Params.SameIff.refl plain _).congr wellJudged_nil
  | (name, value) :: rest, hd, ⟨hv, hr⟩, hn => by
      obtain ⟨hnot, hdr⟩ := List.nodup_cons.mp hd
      have hrest := sameIff_members path rest hdr hr fun hp => (hn hp).2
      rw [sendMembers_cons, operatorMapsOfMembers]
      by_cases hnull : value = .null
      · subst hnull
        exact hrest
      · rw [stripNullMembers_cons hnull, sendMembers_cons]
        have hvalue := sameIff_value (path.child name) name value hv fun hp => (hn hp).1.2
        refine (hvalue.append hrest fun hp => ?_).congr wellJudged_append
        obtain ⟨⟨hname, hplain⟩, hplains⟩ := hn hp
        refine apart_of_members path hname hplains hnot ?_ ?_ ?_ ?_
        · exact sendValue_reaches _ _ _ (hasPlainNames_stripNulls value hplain)
        · exact sendValue_reaches _ _ _ hplain
        · exact fun p hm => exists_reaches_of_stripNullMembers
            (sendMembers_reaches path _ (plainMembers_stripNullMembers rest hplains) p hm)
        · exact sendMembers_reaches path rest hplains

theorem sameIff_group (path : KeyPath) (key : String) : (elements : List Json) → (i : Nat) →
    ElementsReadable elements → (plain → PlainElements elements) →
      Params.SameIff plain (sendGroup path i key (stripNullsOfElements elements))
        (sendGroup path i key elements) (WellJudged (operatorMapsOfGroup elements))
  | [], _, _, _ => (Params.SameIff.refl plain _).congr wellJudged_nil
  | .object members :: rest, i, ⟨⟨hd, hm⟩, hr⟩, hn => by
      rw [stripNullsOfElements, stripNulls_object, sendGroup_object, sendGroup_object,
        operatorMapsOfGroup]
      have hmembers := sameIff_members (path.index i) members hd hm fun hp => (hn hp).1
      have hrest := sameIff_group path key rest (i + 1) hr fun hp => (hn hp).2
      refine (hmembers.append hrest fun hp => ?_).congr wellJudged_append
      obtain ⟨hplain, hplains⟩ := hn hp
      have hstripped := hasPlainNames_stripNulls (.object members) hplain
      refine .of_under ?_
        (.of_child (isPlainName_toString i) (sendFilters_reaches (path.index i) hstripped))
        (.of_child (isPlainName_toString i) (sendFilters_reaches (path.index i) hplain))
        (under_of_group (i + 1) (plainElements_stripNulls rest hplains))
        (under_of_group (i + 1) hplains)
      rintro _ rfl ⟨j, hj, he⟩
      have hij := toString_inj he
      omega
  | .null :: rest, i, ⟨_, hr⟩, hn | .boolean _ :: rest, i, ⟨_, hr⟩, hn
  | .number _ :: rest, i, ⟨_, hr⟩, hn | .string _ :: rest, i, ⟨_, hr⟩, hn
  | .array _ :: rest, i, ⟨_, hr⟩, hn =>
      sameIff_group path key rest i hr fun hp => (hn hp).2

end

theorem sameIff_filters (path : KeyPath) {value : Json} (hr : value.IsReadable)
    (hn : plain → value.HasPlainNames) :
    Params.SameIff plain (value.stripNulls.sendFilters path) (value.sendFilters path)
      (WellJudged (operatorMapsOfFilters value)) := by
  cases value with
  | object members =>
      obtain ⟨hd, hm⟩ := hr
      exact sameIff_members path members hd hm hn
  | _ => exact (Params.SameIff.refl plain _).congr wellJudged_nil

/-! ## Inclusions -/

theorem sameIff_member_named {send : Json → Params} {maps : Json → List (List (String × Json))}
    {members : List (String × Json)} (hd : (members.map Prod.fst).Nodup) (name : String)
    (hnull : send .null = [])
    (h : ∀ value, find? name members = some value →
      Params.SameIff plain (send value.stripNulls) (send value) (WellJudged (maps value))) :
    Params.SameIff plain (sendMember send name (stripNullMembers members))
      (sendMember send name members) (WellJudged (operatorMapsOfMember maps name members)) := by
  rw [sendMember, sendMember, find?_stripNullMembers name hd, operatorMapsOfMember]
  cases hf : find? name members with
  | none => exact (Params.SameIff.refl plain []).congr wellJudged_nil
  | some value =>
      by_cases hv : value = .null
      · subst hv
        have hs := h .null hf
        rw [stripNulls_null, hnull] at hs
        simpa [hnull] using hs
      · simpa [hv] using h value hf

theorem reaches_of_mem_sendMember {send : Json → Params} {path : KeyPath} {name : String}
    {members : List (String × Json)} (hn : PlainMembers members)
    (h : ∀ value, value.HasPlainNames → ∀ p ∈ send value, path.Reaches p.key) :
    ∀ p ∈ sendMember send name members, path.Reaches p.key := by
  intro p hp
  obtain ⟨value, hf, hp⟩ := exists_of_mem_sendMember hp
  exact h value (hasPlainNames_of_find? hn hf) p hp

theorem reaches_of_mem_sendFilters {path : KeyPath} {name : String}
    {members : List (String × Json)} (hn : PlainMembers members) :
    ∀ p ∈ sendMember (sendFilters path) name members, path.Reaches p.key :=
  reaches_of_mem_sendMember hn fun _ hv => sendFilters_reaches path hv

theorem reaches_of_mem_sendInclusion {path : KeyPath} {name : String}
    {members : List (String × Json)} (hn : PlainMembers members) :
    ∀ p ∈ sendMember (sendInclusion path) name members, path.Reaches p.key :=
  reaches_of_mem_sendMember hn fun value => sendInclusion_reaches path value

theorem under_of_indexed {category : Category} {path : KeyPath} {name : String}
    {values : List String} (hname : IsPlainName name) :
    (lowerIndexed category (path.child name) values).Under path (· = name) :=
  .of_child hname fun _ hp => reaches_of_mem_lowerIndexed hp

theorem sameIff_shape (path : KeyPath) {members : List (String × Json)}
    (hd : (members.map Prod.fst).Nodup) (hm : MembersReadable members)
    (hn : plain → PlainMembers members)
    (hinner : ∀ value, find? "populate" members = some value →
      Params.SameIff plain (value.stripNulls.sendInclusion (path.child "populate"))
        (value.sendInclusion (path.child "populate")) (WellJudged (operatorMapsOfInclusion value))) :
    Params.SameIff plain ((PopulateShape.ofMembers (stripNullMembers members)).lower path)
      ((PopulateShape.ofMembers members).lower path)
      (WellJudged (operatorMapsOfRelation (.object members))) := by
  have hpopulate := sameIff_member_named hd "populate" rfl hinner
  have hfilters := sameIff_member_named hd "filters" rfl fun value hf =>
    sameIff_filters (path.child "filters") (isReadable_of_find? ⟨hd, hm⟩ hf)
      fun hp => hasPlainNames_of_find? (hn hp) hf
  -- The four parts send below four names.
  have underInner {members : List (String × Json)} (h : PlainMembers members) :
      (sendMember (sendInclusion (path.child "populate")) "populate" members).Under path
        (· = "populate") :=
    .of_child (by decide) (reaches_of_mem_sendInclusion h)
  have underFilters {members : List (String × Json)} (h : PlainMembers members) :
      (sendMember (sendFilters (path.child "filters")) "filters" members).Under path
        (· = "filters") :=
    .of_child (by decide) (reaches_of_mem_sendFilters h)
  have underTexts {name : String} (h : IsPlainName name) :
      (lowerIndexed .populate (path.child name) (textsOfMember members name)).Under path
        (· = name) :=
    under_of_indexed h
  have hstripped (hp : plain) := plainMembers_stripNullMembers members (hn hp)
  have hfields := Params.SameIff.refl plain
    (lowerIndexed .populate (path.child "fields") (textsOfMember members "fields"))
  have hinclusion := hfields.append hpopulate fun hp =>
    .of_under (by simp) (underTexts (by decide)) (underTexts (by decide))
      (underInner (hstripped hp)) (underInner (hn hp))
  have hsorted := hinclusion.append_same
    (lowerIndexed .populate (path.child "sort") (textsOfMember members "sort"))
  have hall := hsorted.append
    (hfilters.map (fun p => { p with category := .populate }) fun _ => rfl) fun hp => by
      refine .of_under ?_
        (((underTexts (by decide)).append (underInner (hstripped hp))).append
          (underTexts (by decide)))
        (((underTexts (by decide)).append (underInner (hn hp))).append (underTexts (by decide)))
        ((underFilters (hstripped hp)).map fun _ => rfl) ((underFilters (hn hp)).map fun _ => rfl)
      rintro name ((rfl | rfl) | rfl) h <;> exact absurd h (by decide)
  rw [PopulateShape.lower_ofMembers, PopulateShape.lower_ofMembers,
    textsOfMember_stripNullMembers hd, textsOfMember_stripNullMembers hd]
  refine hall.congr ?_
  rw [operatorMapsOfRelation, operatorMapsOfInner_eq, ← wellJudged_append, true_and]

mutual

theorem sameIff_inclusion (path : KeyPath) : (value : Json) → value.IsReadable →
    (plain → value.HasPlainNames) →
      Params.SameIff plain (value.stripNulls.sendInclusion path) (value.sendInclusion path)
        (WellJudged (operatorMapsOfInclusion value))
  | .object members, ⟨hd, hm⟩, hn => sameIff_relations path members hd hm hn
  | .array elements, _, _ => by
      have h : textOfJson? ∘ stripNulls = textOfJson? := funext textOfJson?_stripNulls
      rw [stripNulls_array, sendInclusion, Populate.ofJson?, List.filterMap_map, h]
      exact (Params.SameIff.refl plain _).congr wellJudged_nil
  | .null, _, _ | .boolean _, _, _ | .number _, _, _ | .string _, _, _ =>
      (Params.SameIff.refl plain _).congr wellJudged_nil
termination_by value => sizeOf value

theorem sameIff_relations (path : KeyPath) : (members : List (String × Json)) →
    (members.map Prod.fst).Nodup → MembersReadable members → (plain → PlainMembers members) →
      Params.SameIff plain (sendRelations path (stripNullMembers members))
        (sendRelations path members) (WellJudged (operatorMapsOfRelations members))
  | [], _, _, _ => (Params.SameIff.refl plain _).congr wellJudged_nil
  | (name, value) :: rest, hd, ⟨hv, hr⟩, hn => by
      obtain ⟨hnot, hdr⟩ := List.nodup_cons.mp hd
      have hrest := sameIff_relations path rest hdr hr fun hp => (hn hp).2
      rw [sendRelations_cons, operatorMapsOfRelations]
      by_cases hnull : value = .null
      · subst hnull
        exact hrest
      · rw [stripNullMembers_cons hnull, sendRelations_cons]
        have hvalue := sameIff_relation (path.child name) name value hv fun hp => (hn hp).1.2
        refine (hvalue.append hrest fun hp => ?_).congr wellJudged_append
        obtain ⟨⟨hname, hplain⟩, hplains⟩ := hn hp
        refine apart_of_members path hname hplains hnot ?_ ?_ ?_ ?_
        · exact sendRelation_reaches _ _ _ (hasPlainNames_stripNulls value hplain)
        · exact sendRelation_reaches _ _ _ hplain
        · exact fun p hm => exists_reaches_of_stripNullMembers
            (sendRelations_reaches path _ (plainMembers_stripNullMembers rest hplains) p hm)
        · exact sendRelations_reaches path rest hplains
termination_by members => sizeOf members

theorem sameIff_relation (path : KeyPath) (relation : String) : (value : Json) →
    value.IsReadable → (plain → value.HasPlainNames) →
      Params.SameIff plain (value.stripNulls.sendRelation path relation)
        (value.sendRelation path relation) (WellJudged (operatorMapsOfRelation value))
  | .object members, ⟨hd, hm⟩, hn => by
      have hshape := sameIff_shape path hd hm hn fun value hf => by
        have hlt := sizeOf_lt_of_find? hf
        exact sameIff_inclusion (path.child "populate") value (isReadable_of_find? ⟨hd, hm⟩ hf)
          fun hp => hasPlainNames_of_find? (hn hp) hf
      rw [stripNulls_object, sendRelation_object, sendRelation_object,
        isEmpty_shape_stripNullMembers hd]
      cases he : (PopulateShape.ofMembers members).isEmpty with
      | false => exact hshape
      | true =>
          have he' := (isEmpty_shape_stripNullMembers hd).trans he
          refine ⟨fun _ => rfl, fun hp _ => hshape.of_keys hp ?_⟩
          rw [eq_empty_of_isEmpty he, eq_empty_of_isEmpty he']
  | .null, _, _ | .boolean _, _, _ | .number _, _, _ | .string _, _, _ | .array _, _, _ =>
      (Params.SameIff.refl plain _).congr wellJudged_nil
termination_by value => sizeOf value

end

end

end BracketQuery.Json

namespace BracketQuery.Intent

open Json

/-! ## Intents -/

theorem lowerOthers_stripNullMembers {members : List (String × Json)}
    (hr : (Json.object members).IsReadable) :
    (Intent.ofMembers (stripNullMembers members)).value.lowerOthers =
      (Intent.ofMembers members).value.lowerOthers := by
  obtain ⟨hd, hm⟩ := hr
  have hp : (find? "pagination" (stripNullMembers members)).bind Pagination.ofJson? =
      (find? "pagination" members).bind Pagination.ofJson? := by
    rw [bind_find?_stripNullMembers "pagination" hd rfl]
    cases hf : find? "pagination" members with
    | none => rfl
    | some value => exact paginationOfJson?_stripNulls (isReadable_of_find? ⟨hd, hm⟩ hf)
  simp only [Intent.value_ofMembers, textsOfMember_stripNullMembers hd,
    textOfMember?_stripNullMembers hd, hp]
  rfl

theorem isPlainKey_of_mem_lowerText {category : Category} {text : Option String} {p : Param}
    (hc : IsPlainKey category.root) (h : p ∈ lowerText category text) : IsPlainKey p.key := by
  cases text with
  | none => cases h
  | some value =>
      rw [lowerText] at h
      split at h
      · cases h
      · exact List.mem_singleton.mp h ▸ hc

theorem isPlainKey_of_mem_pagination {pagination : Pagination} {p : Param}
    (h : p ∈ pagination.lower) : IsPlainKey p.key := by
  obtain ⟨⟨name, value⟩, hm, he⟩ := List.mem_filterMap.mp h
  obtain ⟨n, _, rfl⟩ := Option.map_eq_some_iff.mp he
  have hname : name ∈ ["page", "pageSize", "start", "limit"] :=
    List.mem_map_of_mem (f := Prod.fst) hm
  have hplain : ∀ name ∈ ["page", "pageSize", "start", "limit"],
      IsPlainKey ((KeyPath.ofRoot Category.pagination.root).child name).text := by decide
  exact hplain name hname

theorem isPlainKey_of_mem_lowerOthers {i : Intent} {p : Param} (h : p ∈ i.lowerOthers) :
    IsPlainKey p.key := by
  obtain ⟨category, hc, hp⟩ := List.mem_flatMap.mp h
  cases category with
  | filters | populate => exact absurd hc (by decide)
  | sort | fields => exact (reaches_of_mem_lowerIndexed hp).isPlainKey (by decide)
  | locale | publicationState | search => exact isPlainKey_of_mem_lowerText (by decide) hp
  | pagination =>
      rw [lowerOf] at hp
      cases hg : i.pagination with
      | none =>
          rw [hg] at hp
          cases hp
      | some pagination =>
          rw [hg] at hp
          exact isPlainKey_of_mem_pagination hp

theorem isPlainKey_of_mem_lower {members : List (String × Json)} (hn : PlainMembers members) :
    ∀ p ∈ (Intent.ofMembers members).value.lower, IsPlainKey p.key := by
  intro p hp
  rw [lower_eq_append, lowerOf_filters_ofMembers, lowerOf_populate_ofMembers] at hp
  rcases List.mem_append.mp hp with hp | hp
  · rcases List.mem_append.mp hp with hp | hp
    · exact (reaches_of_mem_sendFilters hn p hp).isPlainKey (by decide)
    · exact (reaches_of_mem_sendInclusion hn p hp).isPlainKey (by decide)
  · exact isPlainKey_of_mem_lowerOthers hp

theorem sameIff_lower {plain : Prop} {members : List (String × Json)}
    (hr : (Json.object members).IsReadable) (hn : plain → PlainMembers members) :
    Params.SameIff plain (Intent.ofMembers (stripNullMembers members)).value.lower
      (Intent.ofMembers members).value.lower (WellJudged (operatorMaps members)) := by
  rw [lower_eq_append, lower_eq_append, lowerOf_filters_ofMembers, lowerOf_filters_ofMembers,
    lowerOf_populate_ofMembers, lowerOf_populate_ofMembers, lowerOthers_stripNullMembers hr]
  have hfilters := sameIff_member_named hr.1 "filters" rfl fun value hf =>
    sameIff_filters (KeyPath.ofRoot "filters") (isReadable_of_find? hr hf)
      fun hp => hasPlainNames_of_find? (hn hp) hf
  have hpopulate := sameIff_member_named hr.1 "populate" rfl fun value hf =>
    sameIff_inclusion (KeyPath.ofRoot "populate") value (isReadable_of_find? hr hf)
      fun hp => hasPlainNames_of_find? (hn hp) hf
  refine ((hfilters.append hpopulate fun hp => ?_).append_same _).congr wellJudged_append
  have hs := plainMembers_stripNullMembers members (hn hp)
  refine ⟨(KeyPath.ofRoot "filters").Reaches, ?_, ?_⟩
  · exact List.forall_mem_append.mpr
      ⟨reaches_of_mem_sendFilters hs, reaches_of_mem_sendFilters (hn hp)⟩
  · rintro p hm ⟨below, he, _⟩
    obtain ⟨below', he', _⟩ := List.forall_mem_append.mpr
      ⟨reaches_of_mem_sendInclusion hs, reaches_of_mem_sendInclusion (hn hp)⟩ p hm
    simpa using congrArg (·.toList.head?) (he.symm.trans he')

/-- What becomes of a request when the null members of its document are taken away at every depth:
nothing, if no object in its filters is misjudged. If the names of the document are plain, the query
string is the same only then. -/
theorem compile_stripNullMembers (members : List (String × Json))
    (hr : (Json.object members).IsReadable) :
    let full := (Intent.ofMembers members).value
    let stripped := (Intent.ofMembers (stripNullMembers members)).value
    (WellJudged (operatorMaps members) → stripped.compile = full.compile) ∧
      (PlainMembers members → stripped.compile = full.compile →
        WellJudged (operatorMaps members)) := by
  intro full stripped
  constructor
  · intro h
    exact congrArg Params.queryString ((sameIff_lower hr False.elim).eq_of h)
  · intro hn hs
    refine (sameIff_lower hr fun _ => hn).of_keys trivial ?_
    exact Params.map_key_eq_of_queryString_eq
      (isPlainKey_of_mem_lower (plainMembers_stripNullMembers members hn))
      (isPlainKey_of_mem_lower hn) hs

/-- Nulls that leave no trace, although one of them is all that makes its object one of
comparisons. -/
theorem compile_without_idle_nulls :
    let members := [("filters", Json.object [("total", .object [("$gt", .null),
        ("note", .string "x"), ("tags", .array [.string "a", .null])]), ("gone", .null),
        ("$or", .array [.object [("city", .null)], .null])]),
      ("populate", .object [("customer", .object [("sort", .null),
        ("filters", .object [("age", .object [("$eq", .null), ("$lt", .boolean true)])])])])]
    let full := (Intent.ofMembers members).value
    let stripped := (Intent.ofMembers (stripNullMembers members)).value
    (Json.object members).IsReadable ∧ stripped.compile = full.compile := by
  intro members full stripped
  have hr : (Json.object members).IsReadable := by
    simp [members, Json.IsReadable, Json.MembersReadable, Json.ElementsReadable]
  have hm : operatorMaps members =
      [[("$gt", .null), ("note", .string "x"), ("tags", .array [.string "a", .null])],
        [("$eq", .null), ("$lt", .boolean true)]] := by decide +kernel
  refine ⟨hr, (compile_stripNullMembers members hr).1 ?_⟩
  rw [hm]
  rintro object hobject ⟨_, member, hmember, hambiguous, _⟩
  simp only [List.mem_cons, List.not_mem_nil, or_false] at hobject
  rcases hobject with rfl | rfl <;> simp only [List.mem_cons, List.not_mem_nil, or_false] at hmember
  · rcases hmember with rfl | rfl | rfl
    · exact hambiguous
    · exact hambiguous
    · exact absurd hambiguous (by decide : ¬ IsCombinator "tags")
  · rcases hmember with rfl | rfl <;> exact hambiguous

/-- A null under a known operator hides the conditions beside it. -/
theorem conditions_hidden_by_null :
    let members := [("filters", Json.object [("customer", .object [("$ne", .null),
      ("address", .object [("city", .string "x")])])])]
    (Intent.ofMembers members).value.compile = "" ∧
      (Intent.ofMembers (stripNullMembers members)).value.compile =
        "filters[customer][address][city]=x" := by
  decide +kernel

end BracketQuery.Intent
