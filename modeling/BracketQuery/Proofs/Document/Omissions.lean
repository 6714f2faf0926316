import BracketQuery.Proofs.Document.Rereading
import BracketQuery.Proofs.Json.Nulls

/-!
What decoding leaves out of a filter document, and what it notes. A null member goes silently, every
other part that goes is noted, and nothing else is; so nothing is noted exactly when the filter tree
is written as the document without its null members.
-/

namespace BracketQuery

/-! ## What is kept of a document -/

/-- What is noted of an element of a list that is left out: that it is no single value, or that it
is no member of a group. -/
inductive Omission.OfElement (element : Json) : List Omission → Prop
  | ofList (field : String) (h : Scalar.ofJson? element = none) :
    OfElement element [.elementOfList field]
  | ofNull (key : String) (h : element = .null) : OfElement element [.memberOfGroup key]
  | ofGroup (key : String) (hn : element ≠ .null)
    (h : (FilterNode.ofJson? element).value = none) :
    OfElement element [.filtersOfKind element.kind, .memberOfGroup key]

theorem Omission.OfElement.ne_nil {element : Json} {notes : List Omission}
    (h : OfElement element notes) : notes ≠ [] := by
  cases h <;> exact List.cons_ne_nil _ _

namespace Json

mutual

/-- What is kept of a document, with what is noted of the parts that are left out. -/
inductive Kept : Json → Json → List Omission → Prop
  | scalar {value : Json} {scalar : Scalar} (h : Scalar.ofJson? value = some scalar) :
    Kept value value []
  | object {members kept : List (String × Json)} {notes : List Omission}
    (h : MembersKept members kept notes) : Kept (.object members) (.object kept) notes
  | array {elements kept : List Json} {notes : List Omission}
    (h : ElementsKept elements kept notes) : Kept (.array elements) (.array kept) notes

/-- What is kept of the members of an object. Nothing is noted of a null member. -/
inductive MembersKept :
    List (String × Json) → List (String × Json) → List Omission → Prop
  | nil : MembersKept [] [] []
  | keep (name : String) {value left : Json} {rest kept : List (String × Json)}
    {notes notes' : List Omission} (h : Kept value left notes)
    (hr : MembersKept rest kept notes') :
    MembersKept ((name, value) :: rest) ((name, left) :: kept) (notes ++ notes')
  | null (name : String) {rest kept : List (String × Json)} {notes : List Omission}
    (hr : MembersKept rest kept notes) : MembersKept ((name, .null) :: rest) kept notes
  | operand (field name : String) {members rest kept : List (String × Json)}
    {notes : List Omission} (hr : MembersKept rest kept notes) :
    MembersKept ((name, .object members) :: rest) kept (.objectOperand field name :: notes)

inductive ElementsKept : List Json → List Json → List Omission → Prop
  | nil : ElementsKept [] [] []
  | keep {element left : Json} {rest kept : List Json} {notes notes' : List Omission}
    (h : Kept element left notes) (hr : ElementsKept rest kept notes') :
    ElementsKept (element :: rest) (left :: kept) (notes ++ notes')
  | leave {element : Json} {rest kept : List Json} {notes notes' : List Omission}
    (h : Omission.OfElement element notes) (hr : ElementsKept rest kept notes') :
    ElementsKept (element :: rest) kept (notes ++ notes')

end

/-! ## Nothing is noted if only nulls are left out -/

theorem stripNulls_of_scalar {value : Json} {scalar : Scalar}
    (h : Scalar.ofJson? value = some scalar) : value.stripNulls = value := by
  cases value with
  | object _ | array _ => cases h
  | _ => rfl

theorem Kept.ne_null {value left : Json} {notes : List Omission} (h : value.Kept left notes) :
    value ≠ .null := by
  rintro rfl
  cases h with
  | scalar h => cases h

theorem MembersKept.map_fst_sublist {members kept : List (String × Json)} {notes : List Omission}
    (h : MembersKept members kept notes) : (kept.map Prod.fst).Sublist (members.map Prod.fst) := by
  induction members generalizing kept notes with
  | nil =>
      cases h
      exact List.Sublist.refl _
  | cons member rest ih =>
      cases h with
      | keep name _ hr => exact (ih hr).cons_cons name
      | null name hr | operand _ name hr => exact (ih hr).cons name

theorem MembersKept.length_le {members kept : List (String × Json)} {notes : List Omission}
    (h : MembersKept members kept notes) : kept.length ≤ (stripNullMembers members).length := by
  induction members generalizing kept notes with
  | nil =>
      cases h
      exact Nat.le_refl _
  | cons member rest ih =>
      cases h with
      | keep name h hr =>
          rw [stripNullMembers_cons h.ne_null]
          exact Nat.succ_le_succ (ih hr)
      | null name hr => exact ih hr
      | operand _ name hr => exact Nat.le_succ_of_le (ih hr)

theorem ElementsKept.length_le {elements kept : List Json} {notes : List Omission}
    (h : ElementsKept elements kept notes) : kept.length ≤ elements.length := by
  induction elements generalizing kept notes with
  | nil =>
      cases h
      exact Nat.le_refl _
  | cons element rest ih =>
      cases h with
      | keep h hr => exact Nat.succ_le_succ (ih hr)
      | leave h hr => exact Nat.le_succ_of_le (ih hr)

mutual

theorem Kept.notes_eq_nil_iff : (value : Json) → {left : Json} → {notes : List Omission} →
    value.Kept left notes → (notes = [] ↔ left = value.stripNulls)
  | .object members, _, _, .object h => by
      simpa using MembersKept.notes_eq_nil_iff members h
  | .array elements, _, _, .array h => by
      simpa using ElementsKept.notes_eq_nil_iff elements h
  | value, _, _, .scalar h => by simp [stripNulls_of_scalar h]

/-- Nothing is noted of members if those that are kept are all but the null ones, and only then: a
part that is noted is missing from them. -/
theorem MembersKept.notes_eq_nil_iff : (members : List (String × Json)) →
    {kept : List (String × Json)} → {notes : List Omission} → MembersKept members kept notes →
      (notes = [] ↔ kept = stripNullMembers members)
  | [], _, _, .nil => by simp [stripNullMembers]
  | (_, value) :: rest, _, _, .keep name h hr => by
      rw [stripNullMembers_cons h.ne_null, List.append_eq_nil_iff, List.cons.injEq, Prod.mk.injEq,
        Kept.notes_eq_nil_iff value h, MembersKept.notes_eq_nil_iff rest hr]
      simp
  | (_, .null) :: rest, _, _, .null name hr => MembersKept.notes_eq_nil_iff rest hr
  | (_, .object members) :: rest, _, _, .operand field name hr => by
      -- Fewer members are kept than there are without the null ones.
      have hl := hr.length_le
      refine iff_of_false (List.cons_ne_nil _ _) fun he => ?_
      rw [he] at hl
      exact Nat.not_succ_le_self _ hl

theorem ElementsKept.notes_eq_nil_iff : (elements : List Json) → {kept : List Json} →
    {notes : List Omission} → ElementsKept elements kept notes →
      (notes = [] ↔ kept = elements.map stripNulls)
  | [], _, _, .nil => by simp
  | element :: rest, _, _, .keep h hr => by
      rw [List.map_cons, List.append_eq_nil_iff, List.cons.injEq,
        Kept.notes_eq_nil_iff element h, ElementsKept.notes_eq_nil_iff rest hr]
  | element :: rest, _, _, .leave h hr => by
      have hl := hr.length_le
      refine iff_of_false (fun he => h.ne_nil (List.append_eq_nil_iff.mp he).1) fun he => ?_
      rw [he, List.length_map] at hl
      exact Nat.not_succ_le_self _ hl

end

/-! ## Numbers -/

/-- A number that a filter holds as it is written: a double, or an integer of 64 bits. -/
def Number.IsHeld : Number → Prop
  | .integer value => -2 ^ 63 ≤ value ∧ value < 2 ^ 63
  | .float _ => True

mutual

/-- The numbers in a document. -/
def numbers : Json → List Number
  | .number value => [value]
  | .array elements => numbersOfElements elements
  | .object members => numbersOfMembers members
  | .null | .boolean _ | .string _ => []

def numbersOfElements : List Json → List Number
  | [] => []
  | element :: rest => numbers element ++ numbersOfElements rest

def numbersOfMembers : List (String × Json) → List Number
  | [] => []
  | (_, value) :: rest => numbers value ++ numbersOfMembers rest

end

theorem mem_numbersOfElements {number : Number} {elements : List Json} :
    number ∈ numbersOfElements elements ↔ ∃ element ∈ elements, number ∈ element.numbers := by
  induction elements with
  | nil => simp [numbersOfElements]
  | cons element rest ih => simp [numbersOfElements, ih]

theorem mem_numbersOfMembers {number : Number} {members : List (String × Json)} :
    number ∈ numbersOfMembers members ↔ ∃ member ∈ members, number ∈ member.2.numbers := by
  induction members with
  | nil => simp [numbersOfMembers]
  | cons member rest ih => simp [numbersOfMembers, ih]

/-- A readable document whose numbers are held as they are written. -/
structure IsHeld (value : Json) : Prop where
  readable : value.IsReadable
  held : ∀ number ∈ value.numbers, number.IsHeld

theorem IsHeld.element {elements : List Json} (h : (array elements).IsHeld) :
    ∀ element ∈ elements, element.IsHeld := fun element he =>
  ⟨isReadable_array.mp h.readable element he,
    fun number hn => h.held number (mem_numbersOfElements.mpr ⟨element, he, hn⟩)⟩

theorem IsHeld.member {members : List (String × Json)} (h : (object members).IsHeld) :
    ∀ member ∈ members, member.2.IsHeld := fun member hm =>
  ⟨(isReadable_object.mp h.readable).2 member hm,
    fun number hn => h.held number (mem_numbersOfMembers.mpr ⟨member, hm, hn⟩)⟩

theorem MembersKept.ofMembers_eq {members kept : List (String × Json)} {notes : List Omission}
    (h : MembersKept members kept notes) (hm : (object members).IsHeld) :
    ofMembers kept = kept :=
  ofMembers_of_nodup ((isReadable_object.mp hm.readable).1.sublist h.map_fst_sublist)

end Json

open Json (Kept MembersKept ElementsKept)

/-! ## Values and comparisons -/

theorem Scalar.toJson_ofNumber {number : Json.Number} (hr : number.IsReadable)
    (hh : number.IsHeld) : (ofNumber number).toJson = .number number := by
  cases number with
  | integer n =>
      have hn : Integer.toInt64? n = some (Int64.ofInt n) := if_pos hh
      simp only [ofNumber, hn, toJson, Int64.toInt_ofInt_of_le hh.1 hh.2]
  | float x =>
      have hx : x.isFinite = true := hr
      simp [ofNumber, toJson, hx]

theorem Scalar.toJson_of_ofJson? {value : Json} {scalar : Scalar} (hv : value.IsHeld)
    (h : Scalar.ofJson? value = some scalar) : scalar.toJson = value := by
  cases value with
  | null | array _ | object _ => cases h
  | boolean _ | string _ =>
      cases h
      rfl
  | number number =>
      cases h
      exact Scalar.toJson_ofNumber hv.readable (hv.held number List.mem_cons_self)

theorem Scalar.listOfJson_cons (field : String) (element : Json) (rest : List Json) :
    (Scalar.listOfJson field (element :: rest)).value =
        (Scalar.ofJson? element).toList ++ (Scalar.listOfJson field rest).value ∧
      (Scalar.listOfJson field (element :: rest)).events =
        (match Scalar.ofJson? element with
          | some _ => []
          | none => [.elementOfList field]) ++ (Scalar.listOfJson field rest).events := by
  simp only [Scalar.listOfJson, Traced.filterMap, Traced.value_bind, Traced.events_bind]
  cases Scalar.ofJson? element <;> simp

theorem Scalar.listOfJson_kept (field : String) {elements : List Json}
    (h : ∀ element ∈ elements, element.IsHeld) :
    ElementsKept elements ((Scalar.listOfJson field elements).value.map Scalar.toJson)
      (Scalar.listOfJson field elements).events := by
  induction elements with
  | nil => exact .nil
  | cons element rest ih =>
      obtain ⟨he, hr⟩ := List.forall_mem_cons.mp h
      obtain ⟨hvalue, hevents⟩ := Scalar.listOfJson_cons field element rest
      rw [hvalue, hevents]
      cases hs : Scalar.ofJson? element with
      | none => exact .leave (.ofList field hs) (ih hr)
      | some scalar =>
          have hk : Kept element scalar.toJson [] := by
            rw [Scalar.toJson_of_ofJson? he hs]
            exact .scalar hs
          exact .keep hk (ih hr)

theorem comparisons_kept (field : String) {members : List (String × Json)}
    (h : ∀ member ∈ members, member.2.IsHeld) :
    MembersKept members ((comparisonsOf members).map fun c => (c.1.spelling, c.2.toJson))
      (members.flatMap fun member => (comparisonOfJson? field member).events) := by
  induction members with
  | nil => exact .nil
  | cons member rest ih =>
      obtain ⟨name, value⟩ := member
      obtain ⟨hv, hr⟩ := List.forall_mem_cons.mp h
      have hrest := ih hr
      unfold comparisonsOf at hrest ⊢
      rw [List.filterMap_cons, List.flatMap_cons]
      cases value with
      | null => exact .null name hrest
      | object members => exact .operand field name hrest
      | array elements =>
          have hk := Scalar.listOfJson_kept field hv.element
          rw [Scalar.value_listOfJson] at hk
          simpa [Operand.ofJson?, Operand.toJson, comparisonOfJson?] using
            MembersKept.keep name (.array hk) hrest
      | boolean _ | number _ | string _ =>
          have hj := Scalar.toJson_of_ofJson? hv rfl
          simpa [Operand.ofJson?, Operand.toJson, comparisonOfJson?, hj, Scalar.ofJson?] using
            MembersKept.keep name (.scalar rfl) hrest

/-! ## Filter trees -/

theorem FilterNode.events_ofMembers_cons (member : String × Json) (rest : List (String × Json)) :
    (FilterNode.ofMembers (member :: rest)).events =
      (FilterValue.ofJson? member.1 member.2).events ++ (FilterNode.ofMembers rest).events := by
  simp [FilterNode.ofMembers]

theorem FilterNode.groupOfJson_leave (key : String) {element : Json} {rest : List Json}
    (h : (FilterNode.ofJson? element).value = none)
    (hr : ElementsKept rest (FilterNode.toElements (FilterNode.groupOfJson key rest).value)
      (FilterNode.groupOfJson key rest).events) :
    ElementsKept (element :: rest)
      (FilterNode.toElements (FilterNode.groupOfJson key (element :: rest)).value)
      (FilterNode.groupOfJson key (element :: rest)).events := by
  have hv : (FilterNode.groupOfJson key (element :: rest)).value =
      (FilterNode.groupOfJson key rest).value := by
    rw [FilterNode.value_groupOfJson_cons, h]
    rfl
  rw [hv]
  cases element with
  | object members => simp [FilterNode.ofJson?] at h
  | null => exact .leave (.ofNull key rfl) hr
  | _ => simpa [FilterNode.groupOfJson] using ElementsKept.leave (.ofGroup key (by simp) h) hr

mutual

theorem FilterValue.ofJson?_kept (key : String) : (value : Json) → value ≠ .null → value.IsHeld →
    ∃ condition, (FilterValue.ofJson? key value).value = some condition ∧
      value.Kept condition.toJson (FilterValue.ofJson? key value).events
  | .null, hn, _ => absurd rfl hn
  | .boolean _, _, hv | .number _, _, hv | .string _, _, hv => by
      have hj := Scalar.toJson_of_ofJson? hv rfl
      refine ⟨.scalar _, rfl, ?_⟩
      rw [FilterValue.toJson, hj]
      exact .scalar rfl
  | .object members, _, hv => by
      rw [FilterValue.value_ofJson?_object]
      refine ⟨_, rfl, ?_⟩
      simp only [FilterValue.ofJson?]
      split
      · have hk := comparisons_kept key hv.member
        simp only [FilterValue.toJson, hk.ofMembers_eq hv]
        simpa using Kept.object hk
      · have hk := FilterNode.ofMembers_kept members hv.member
        simp only [FilterValue.toJson, hk.ofMembers_eq hv]
        simpa using Kept.object hk
  | .array elements, _, hv => by
      rw [FilterValue.value_ofJson?_array]
      refine ⟨_, rfl, ?_⟩
      simp only [FilterValue.ofJson?]
      split
      · have hk := FilterNode.groupOfJson_kept key elements hv.element
        simpa [FilterValue.toJson] using Kept.array hk
      · have hk := Scalar.listOfJson_kept key hv.element
        rw [Scalar.value_listOfJson] at hk
        simpa [FilterValue.toJson] using Kept.array hk

theorem FilterNode.ofMembers_kept : (members : List (String × Json)) →
    (∀ member ∈ members, member.2.IsHeld) →
      MembersKept members (FilterNode.toMembers (FilterNode.ofMembers members).value)
        (FilterNode.ofMembers members).events
  | [], _ => .nil
  | (name, value) :: rest, h => by
      obtain ⟨hv, hr⟩ := List.forall_mem_cons.mp h
      have hrest := FilterNode.ofMembers_kept rest hr
      rw [FilterNode.value_ofMembers_cons, FilterNode.events_ofMembers_cons]
      by_cases hn : value = .null
      · subst hn
        exact .null name hrest
      · obtain ⟨condition, hc, hk⟩ := FilterValue.ofJson?_kept name value hn hv
        rw [hc]
        exact .keep name hk hrest

theorem FilterNode.groupOfJson_kept (key : String) : (elements : List Json) →
    (∀ element ∈ elements, element.IsHeld) →
      ElementsKept elements (FilterNode.toElements (FilterNode.groupOfJson key elements).value)
        (FilterNode.groupOfJson key elements).events
  | [], _ => .nil
  | .object members :: rest, h => by
      obtain ⟨he, hr⟩ := List.forall_mem_cons.mp h
      have hk := FilterNode.ofMembers_kept members he.member
      have hobject := Kept.object hk
      rw [← hk.ofMembers_eq he] at hobject
      simpa [FilterNode.groupOfJson, FilterNode.toElements] using
        ElementsKept.keep hobject (FilterNode.groupOfJson_kept key rest hr)
  | .null :: rest, h | .boolean _ :: rest, h | .number _ :: rest, h | .string _ :: rest, h
  | .array _ :: rest, h =>
      FilterNode.groupOfJson_leave key rfl
        (FilterNode.groupOfJson_kept key rest (List.forall_mem_cons.mp h).2)

end

/-- Of a filter document, null members are left out silently and every other part that is left out
is noted, and nothing is noted exactly if the filter tree is written as the document without its
null members. -/
theorem FilterNode.kept_of_ofJson? {members : List (String × Json)}
    (h : (Json.object members).IsHeld) :
    let decoded := FilterNode.ofJson? (.object members)
    ∃ node, decoded.value = some node ∧
      (Json.object members).Kept node.toJson decoded.events ∧
      (decoded.events = [] ↔ node.toJson = (Json.object members).stripNulls) := by
  intro decoded
  have hk := FilterNode.ofMembers_kept members h.member
  have hobject := Kept.object hk
  rw [← hk.ofMembers_eq h] at hobject
  have he : decoded.events = (FilterNode.ofMembers members).events := by
    simp [decoded, FilterNode.ofJson?]
  rw [he]
  exact ⟨_, FilterNode.value_ofJson?_object members, hobject, hobject.notes_eq_nil_iff⟩

/-- An object under an operator, a null element and a member of a group that is no object are noted,
and null members are not. -/
theorem FilterNode.noted_parts_left_out :
    let members : List (String × Json) :=
      [("total", .object [("$gt", .number (.integer 5)), ("$lt", .object []), ("$ne", .null)]),
        ("tags", .array [.string "a", .null]), ("$or", .array [.object [], .boolean true]),
        ("note", .null)]
    let decoded := FilterNode.ofJson? (.object members)
    (Json.object members).IsHeld ∧
      (∃ node, decoded.value = some node ∧
        (Json.object members).Kept node.toJson decoded.events ∧
        (decoded.events = [] ↔ node.toJson = (Json.object members).stripNulls)) ∧
      decoded.events = [.objectOperand "total" "$lt", .elementOfList "tags",
        .filtersOfKind "boolean", .memberOfGroup "$or"] := by
  intro members decoded
  have h : (Json.object members).IsHeld :=
    ⟨by simp [members, Json.IsReadable, Json.MembersReadable, Json.ElementsReadable,
        Json.Number.IsReadable],
      by simp [members, Json.numbers, Json.numbersOfMembers, Json.numbersOfElements,
        Json.Number.IsHeld]⟩
  exact ⟨h, FilterNode.kept_of_ofJson? h, by decide +kernel⟩

end BracketQuery
