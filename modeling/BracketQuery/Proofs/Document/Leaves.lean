import BracketQuery.Proofs.Document.Sending
import BracketQuery.Proofs.Normalization.Reconciliation

/-!
Documents with a place for a single value. Wherever conditions take single values, the one that is
put there is sent under the path to the place, and nothing else that is sent depends on it.
-/

namespace BracketQuery

open Json

/-- A list with a place for one more element. -/
structure Slot (α : Type) where
  before : List α
  after : List α

namespace Slot

variable {α : Type}

/-- The list with an element at the place. -/
def fill (slot : Slot α) (x : α) : List α := slot.before ++ x :: slot.after

end Slot

/-- An object with a place for the value of one more member. -/
structure MemberSlot extends Slot (String × Json) where
  name : String

namespace MemberSlot

/-- The members with a value at the place. -/
def members (slot : MemberSlot) (value : Json) : List (String × Json) :=
  slot.fill (slot.name, value)

end MemberSlot

/-- A place for a single value in the condition under a key. -/
inductive ConditionPlace where
  /-- The condition is the value. -/
  | value
  /-- An element of a list of values. -/
  | element (elements : Slot Json)
  /-- What an operator compares with. -/
  | operand (comparisons : MemberSlot)
  /-- An element of the list that an operator compares with. -/
  | operandElement (comparisons : MemberSlot) (elements : Slot Json)
  /-- A place in the condition of a member of an object. -/
  | nested (conditions : MemberSlot) (place : ConditionPlace)
  /-- A place in the condition of a member of an object of a group. -/
  | grouped (nodes : Slot Json) (conditions : MemberSlot) (place : ConditionPlace)

namespace ConditionPlace

/-- The condition with a value at the place. -/
def fill (leaf : Json) : ConditionPlace → Json
  | value => leaf
  | element elements => .array (elements.fill leaf)
  | operand comparisons => .object (comparisons.members leaf)
  | operandElement comparisons elements =>
    .object (comparisons.members (.array (elements.fill leaf)))
  | nested conditions place => .object (conditions.members (place.fill leaf))
  | grouped nodes conditions place =>
    .array (nodes.fill (.object (conditions.members (place.fill leaf))))

/-- The path to the place from that of the condition. Elements that are passed over have no place
of their own. -/
def path (base : KeyPath) : ConditionPlace → KeyPath
  | value => base
  | element elements => base.index (elements.before.filterMap Scalar.ofJson?).length
  | operand comparisons => base.child comparisons.name
  | operandElement comparisons elements =>
    (base.child comparisons.name).index (elements.before.filterMap Scalar.ofJson?).length
  | nested conditions place => place.path (base.child conditions.name)
  | grouped nodes conditions place =>
    place.path ((base.index (nodes.before.filterMap fun node =>
      (FilterNode.ofJson? node).value).length).child conditions.name)

/-- The objects and lists on the way to the place are taken for what they are meant as. -/
def IsTaken (key : String) : ConditionPlace → Prop
  | value => True
  | element _ => ¬ IsCombinator key
  | operand comparisons => isOperatorMap (comparisons.members .null) = true
  | operandElement comparisons _ => isOperatorMap (comparisons.members .null) = true
  | nested conditions place =>
    isOperatorMap (conditions.members .null) = false ∧ place.IsTaken conditions.name
  | grouped _ conditions place => IsCombinator key ∧ place.IsTaken conditions.name

end ConditionPlace

/-- A place for a single value in the conditions that the members of an object state. -/
structure NodePlace where
  conditions : MemberSlot
  place : ConditionPlace

namespace NodePlace

/-- The members with a value at the place. -/
def members (node : NodePlace) (leaf : Json) : List (String × Json) :=
  node.conditions.members (node.place.fill leaf)

def path (base : KeyPath) (node : NodePlace) : KeyPath :=
  node.place.path (base.child node.conditions.name)

def IsTaken (node : NodePlace) : Prop := node.place.IsTaken node.conditions.name

end NodePlace

/-- A place for a single value in the conditions of a relation that is included. -/
inductive InclusionPlace where
  /-- The conditions are those of the relation. -/
  | filters (relations : MemberSlot) (shape : Slot (String × Json)) (node : NodePlace)
  /-- The conditions are those of a relation that is included of the relation. -/
  | populate (relations : MemberSlot) (shape : Slot (String × Json)) (place : InclusionPlace)

namespace InclusionPlace

/-- The inclusion with a value at the place. -/
def fill (leaf : Json) : InclusionPlace → Json
  | filters relations shape node =>
    .object (relations.members (.object (shape.fill ("filters", .object (node.members leaf)))))
  | populate relations shape place =>
    .object (relations.members (.object (shape.fill ("populate", place.fill leaf))))

def path (base : KeyPath) : InclusionPlace → KeyPath
  | filters relations _ node => node.path ((base.child relations.name).child "filters")
  | populate relations _ place => place.path ((base.child relations.name).child "populate")

/-- The members on the way to the place are the first of their names. -/
def IsTaken : InclusionPlace → Prop
  | filters _ shape node => find? "filters" shape.before = none ∧ node.IsTaken
  | populate _ shape place => find? "populate" shape.before = none ∧ place.IsTaken

end InclusionPlace

/-- A place for a single value in the conditions of a document. -/
inductive LeafPlace where
  | filters (members : Slot (String × Json)) (node : NodePlace)
  | populate (members : Slot (String × Json)) (place : InclusionPlace)

namespace LeafPlace

/-- The members of the document with a value at the place. -/
def members (leaf : Json) : LeafPlace → List (String × Json)
  | filters members node => members.fill ("filters", .object (node.members leaf))
  | populate members place => members.fill ("populate", place.fill leaf)

def category : LeafPlace → Category
  | filters _ _ => .filters
  | populate _ _ => .populate

def path : LeafPlace → KeyPath
  | filters _ node => node.path (KeyPath.ofRoot "filters")
  | populate _ place => place.path (KeyPath.ofRoot "populate")

def IsTaken : LeafPlace → Prop
  | filters members node => find? "filters" members.before = none ∧ node.IsTaken
  | populate members place => find? "populate" members.before = none ∧ place.IsTaken

end LeafPlace

/-! ## Parts of lists -/

theorem lowerIndexed_append_cons (category : Category) (path : KeyPath) (before after : List String)
    (text : String) :
    lowerIndexed category path (before ++ text :: after) =
      lowerIndexed category path before ++ ⟨category, (path.index before.length).text, text⟩ ::
        after.mapIdx fun i text => ⟨category, (path.index (i + 1 + before.length)).text, text⟩ := by
  rw [lowerIndexed, List.mapIdx_append, List.mapIdx_cons, Nat.zero_add, lowerIndexed]

theorem sendMembers_append (path : KeyPath) (xs ys : List (String × Json)) :
    sendMembers path (xs ++ ys) = sendMembers path xs ++ sendMembers path ys := by
  induction xs with
  | nil => rfl
  | cons member rest ih =>
      rw [List.cons_append, sendMembers_cons, ih, sendMembers_cons, List.append_assoc]

theorem lowerMembers_append (path : KeyPath) (i : Nat) (xs ys : List FilterNode) :
    FilterNode.lowerMembers path i (xs ++ ys) =
      FilterNode.lowerMembers path i xs ++ FilterNode.lowerMembers path (i + xs.length) ys := by
  induction xs generalizing i with
  | nil => rfl
  | cons node rest ih =>
      rw [List.cons_append, FilterNode.lowerMembers, ih, FilterNode.lowerMembers,
        List.append_assoc, List.length_cons, Nat.add_assoc, Nat.add_comm 1]

theorem sendGroup_append (path : KeyPath) (i : Nat) (key : String) (xs ys : List Json) :
    sendGroup path i key (xs ++ ys) = sendGroup path i key xs ++
      sendGroup path (i + (xs.filterMap fun node => (FilterNode.ofJson? node).value).length) key
        ys := by
  simp only [sendGroup, FilterNode.value_groupOfJson, List.filterMap_append, lowerMembers_append]

theorem sendRelations_append (path : KeyPath) (xs ys : List (String × Json)) :
    sendRelations path (xs ++ ys) = sendRelations path xs ++ sendRelations path ys := by
  induction xs with
  | nil => rfl
  | cons member rest ih =>
      rw [List.cons_append, sendRelations_cons, ih, sendRelations_cons, List.append_assoc]

/-! ## What depends on a leaf -/

/-- Of the parameters sent only the value of one depends on the leaf, and that one is the text of
the leaf. -/
def SendsLeaf (category : Category) (key : String) (send : Json → Params) : Prop :=
  ∃ before after, ∀ leaf scalar, Scalar.ofJson? leaf = some scalar →
    send leaf = before ++ ⟨category, key, scalar.wireText⟩ :: after

namespace SendsLeaf

variable {category : Category} {key : String} {send send' : Json → Params}

theorem of_append (h : SendsLeaf category key send) (xs ys : Params)
    (he : ∀ leaf, send' leaf = xs ++ send leaf ++ ys) : SendsLeaf category key send' := by
  obtain ⟨before, after, h⟩ := h
  refine ⟨xs ++ before, after ++ ys, fun leaf scalar hs => ?_⟩
  rw [he, h leaf scalar hs, List.append_assoc, List.append_assoc, List.append_assoc,
    List.cons_append]

theorem congr (h : SendsLeaf category key send) (he : ∀ leaf, send' leaf = send leaf) :
    SendsLeaf category key send' :=
  h.of_append [] [] fun leaf => by rw [he, List.nil_append, List.append_nil]

theorem ofCategory (h : SendsLeaf category key send) (other : Category) :
    SendsLeaf other key fun leaf => (send leaf).map fun p => { p with category := other } := by
  obtain ⟨before, after, h⟩ := h
  refine ⟨before.map fun p => { p with category := other },
    after.map fun p => { p with category := other }, fun leaf scalar hs => ?_⟩
  simp only [h leaf scalar hs, List.map_append, List.map_cons]

end SendsLeaf

/-! ## Conditions -/

theorem sendsLeaf_operand (path : KeyPath) : SendsLeaf .filters path.text (sendOperand path) :=
  ⟨[], [], fun _ _ hs => sendOperand_of_scalar path hs⟩

theorem sendsLeaf_value (path : KeyPath) (key : String) :
    SendsLeaf .filters path.text (sendValue path key) :=
  ⟨[], [], fun _ _ hs => (sendValue_of_scalar path key hs).trans (sendOperand_of_scalar path hs)⟩

theorem sendsLeaf_scalars (path : KeyPath) (elements : Slot Json) :
    SendsLeaf .filters (path.index (elements.before.filterMap Scalar.ofJson?).length).text
      fun leaf => sendScalars path (elements.fill leaf) := by
  let texts (elements : List Json) := (elements.filterMap Scalar.ofJson?).map Scalar.wireText
  refine ⟨lowerIndexed .filters path (texts elements.before), (texts elements.after).mapIdx
    fun i text => ⟨.filters, (path.index (i + 1 + (texts elements.before).length)).text, text⟩,
    fun leaf scalar hs => ?_⟩
  simp only [texts, sendScalars, Slot.fill, List.filterMap_append, List.filterMap_cons_some hs,
    List.map_append, List.map_cons, lowerIndexed_append_cons, List.length_map]

theorem isOperatorMap_members (slot : MemberSlot) (value : Json) :
    isOperatorMap (slot.members value) = isOperatorMap (slot.members .null) := by
  simp only [isOperatorMap, MemberSlot.members, Slot.fill, List.any_append, List.any_cons]

theorem sendsLeaf_members {category : Category} {key : String} (path : KeyPath) (slot : MemberSlot)
    {fill : Json → Json}
    (h : SendsLeaf category key fun leaf =>
      sendValue (path.child slot.name) slot.name (fill leaf)) :
    SendsLeaf category key fun leaf => sendMembers path (slot.members (fill leaf)) :=
  h.of_append (sendMembers path slot.before) (sendMembers path slot.after) fun leaf => by
    rw [MemberSlot.members, Slot.fill, sendMembers_append, sendMembers_cons, List.append_assoc]

theorem sendsLeaf_comparisons {category : Category} {key : String} (path : KeyPath)
    (field : String) (slot : MemberSlot) (ho : isOperatorMap (slot.members .null) = true)
    (fill : Json → Json)
    (h : SendsLeaf category key fun leaf => sendOperand (path.child slot.name) (fill leaf)) :
    SendsLeaf category key fun leaf =>
      sendValue path field (.object (slot.members (fill leaf))) :=
  h.of_append (slot.before.flatMap fun m => m.2.sendOperand (path.child m.1))
    (slot.after.flatMap fun m => m.2.sendOperand (path.child m.1)) fun leaf => by
      rw [sendValue_object, isOperatorMap_members, if_pos ho, MemberSlot.members, Slot.fill,
        List.flatMap_append, List.flatMap_cons, List.append_assoc]

/-- The leaf at a place of a condition is sent under the path to the place. -/
theorem ConditionPlace.sendsLeaf (key : String) (base : KeyPath) : (place : ConditionPlace) →
    place.IsTaken key →
      SendsLeaf .filters (place.path base).text fun leaf => sendValue base key (place.fill leaf)
  | value, _ => sendsLeaf_value base key
  | element elements, h => (sendsLeaf_scalars base elements).congr fun leaf => by
      rw [fill, sendValue_array, if_neg h]
  | operand comparisons, h => sendsLeaf_comparisons base key comparisons h id (sendsLeaf_operand _)
  | operandElement comparisons elements, h =>
      sendsLeaf_comparisons base key comparisons h
        (fun leaf => .array (elements.fill leaf)) (sendsLeaf_scalars _ elements)
  | nested conditions place, ⟨ho, hp⟩ =>
      (sendsLeaf_members base conditions (place.sendsLeaf _ _ hp)).congr fun leaf => by
        rw [fill, sendValue_object, isOperatorMap_members, ho, if_neg Bool.false_ne_true]
  | grouped nodes conditions place, ⟨hk, hp⟩ =>
      (sendsLeaf_members _ conditions (place.sendsLeaf _ _ hp)).of_append
        (sendGroup base 0 key nodes.before) _ fun leaf => by
          rw [fill, sendValue_array, if_pos hk, Slot.fill, sendGroup_append, Nat.zero_add,
            sendGroup_object, ← List.append_assoc]

theorem NodePlace.sendsLeaf (base : KeyPath) {node : NodePlace} (h : node.IsTaken) :
    SendsLeaf .filters (node.path base).text fun leaf => sendMembers base (node.members leaf) :=
  sendsLeaf_members base node.conditions (node.place.sendsLeaf _ _ h)

/-! ## Members by name -/

theorem find?_fill_self {slot : Slot (String × Json)} {name : String}
    (h : find? name slot.before = none) (value : Json) :
    find? name (slot.fill (name, value)) = some value := by
  rw [Slot.fill, find?_append, h, Option.none_or, find?_cons, if_pos rfl]

theorem find?_fill_of_ne (slot : Slot (String × Json)) {name other : String} (h : name ≠ other)
    (value : Json) :
    find? other (slot.fill (name, value)) = find? other (slot.before ++ slot.after) := by
  rw [Slot.fill, find?_append, find?_append, find?_cons, if_neg h]

theorem textsOfMember_fill_of_ne (slot : Slot (String × Json)) {name other : String}
    (h : name ≠ other) (value : Json) :
    textsOfMember (slot.fill (name, value)) other =
      textsOfMember (slot.before ++ slot.after) other := by
  rw [textsOfMember, find?_fill_of_ne slot h, textsOfMember]

theorem sendMember_fill_self {slot : Slot (String × Json)} {name : String}
    (h : find? name slot.before = none) (send : Json → Params) (value : Json) :
    sendMember send name (slot.fill (name, value)) = send value := by
  rw [sendMember, find?_fill_self h]

theorem sendMember_fill_of_ne (slot : Slot (String × Json)) {name other : String}
    (h : name ≠ other) (send : Json → Params) (value : Json) :
    sendMember send other (slot.fill (name, value)) =
      sendMember send other (slot.before ++ slot.after) := by
  rw [sendMember, find?_fill_of_ne slot h, sendMember]

/-! ## Inclusions -/

theorem sendsLeaf_relation {category : Category} {key : String} (path : KeyPath) (relation : String)
    {members : Json → List (String × Json)}
    (h : SendsLeaf category key fun leaf => (PopulateShape.ofMembers (members leaf)).lower path) :
    SendsLeaf category key fun leaf => sendRelation path relation (.object (members leaf)) := by
  obtain ⟨before, after, h⟩ := h
  refine ⟨before, after, fun leaf scalar hs => ?_⟩
  have hsent : (PopulateShape.ofMembers (members leaf)).lower path =
      before ++ ⟨category, key, scalar.wireText⟩ :: after := h leaf scalar hs
  have hne : ¬ (PopulateShape.ofMembers (members leaf)).isEmpty = true := fun he => by
    rw [eq_empty_of_isEmpty he] at hsent
    simp [PopulateShape.empty, PopulateShape.lower, Populate.lowerOption, lowerIndexed] at hsent
  simp only [sendRelation_object, if_neg hne, hsent]

theorem sendsLeaf_shape_filters {key : String} (path : KeyPath) {shape : Slot (String × Json)}
    (hs : find? "filters" shape.before = none) {fill : Json → Json}
    (h : SendsLeaf .filters key fun leaf => sendFilters (path.child "filters") (fill leaf)) :
    SendsLeaf .populate key fun leaf =>
      (PopulateShape.ofMembers (shape.fill ("filters", fill leaf))).lower path := by
  let others := shape.before ++ shape.after
  refine (h.ofCategory .populate).of_append
    (lowerIndexed .populate (path.child "fields") (textsOfMember others "fields") ++
      sendMember (sendInclusion (path.child "populate")) "populate" others ++
      lowerIndexed .populate (path.child "sort") (textsOfMember others "sort")) [] fun leaf => ?_
  rw [PopulateShape.lower_ofMembers, textsOfMember_fill_of_ne shape (by decide),
    textsOfMember_fill_of_ne shape (by decide), sendMember_fill_of_ne shape (by decide),
    sendMember_fill_self hs, List.append_nil]

theorem sendsLeaf_shape_populate {category : Category} {key : String} (path : KeyPath)
    {shape : Slot (String × Json)} (hs : find? "populate" shape.before = none) {fill : Json → Json}
    (h : SendsLeaf category key fun leaf => sendInclusion (path.child "populate") (fill leaf)) :
    SendsLeaf category key fun leaf =>
      (PopulateShape.ofMembers (shape.fill ("populate", fill leaf))).lower path := by
  let others := shape.before ++ shape.after
  refine h.of_append
    (lowerIndexed .populate (path.child "fields") (textsOfMember others "fields"))
    (lowerIndexed .populate (path.child "sort") (textsOfMember others "sort") ++
      (sendMember (sendFilters (path.child "filters")) "filters" others).map
        fun p => { p with category := .populate }) fun leaf => ?_
  rw [PopulateShape.lower_ofMembers, textsOfMember_fill_of_ne shape (by decide),
    textsOfMember_fill_of_ne shape (by decide), sendMember_fill_self hs,
    sendMember_fill_of_ne shape (by decide), List.append_assoc]

theorem sendsLeaf_relations {category : Category} {key : String} (path : KeyPath)
    (relations : MemberSlot) (fill : Json → Json)
    (h : SendsLeaf category key fun leaf =>
      sendRelation (path.child relations.name) relations.name (fill leaf)) :
    SendsLeaf category key fun leaf =>
      sendInclusion path (.object (relations.members (fill leaf))) :=
  h.of_append (sendRelations path relations.before) (sendRelations path relations.after)
    fun leaf => by
      show sendRelations path _ = _
      rw [MemberSlot.members, Slot.fill, sendRelations_append, sendRelations_cons,
        List.append_assoc]

theorem InclusionPlace.sendsLeaf (base : KeyPath) : (place : InclusionPlace) → place.IsTaken →
    SendsLeaf .populate (place.path base).text fun leaf => sendInclusion base (place.fill leaf)
  | filters relations shape node, ⟨hs, hn⟩ =>
      sendsLeaf_relations base relations
        (fun leaf => .object (shape.fill ("filters", .object (node.members leaf))))
        (sendsLeaf_relation _ _ (sendsLeaf_shape_filters _ hs (node.sendsLeaf _ hn)))
  | populate relations shape place, ⟨hs, hp⟩ =>
      sendsLeaf_relations base relations
        (fun leaf => .object (shape.fill ("populate", place.fill leaf)))
        (sendsLeaf_relation _ _ (sendsLeaf_shape_populate _ hs (place.sendsLeaf _ hp)))

/-! ## Documents -/

theorem lowerOthers_fill (slot : Slot (String × Json)) {name : String}
    (h : name = "filters" ∨ name = "populate") (value : Json) :
    (Intent.ofMembers (slot.fill (name, value))).value.lowerOthers =
      (Intent.ofMembers (slot.before ++ slot.after)).value.lowerOthers := by
  have hother (other : String) (ho : other ≠ "filters" ∧ other ≠ "populate") :
      find? other (slot.fill (name, value)) = find? other (slot.before ++ slot.after) :=
    find?_fill_of_ne slot (by rintro rfl; exact h.elim ho.1 ho.2) value
  simp (disch := decide) only [Intent.value_ofMembers, textsOfMember, textOfMember?, hother]
  rfl

/-- The leaf at a place of a document is sent under the path to the place. -/
theorem LeafPlace.sendsLeaf {place : LeafPlace} (h : place.IsTaken) :
    SendsLeaf place.category place.path.text fun leaf =>
      (Intent.ofMembers (place.members leaf)).value.lower := by
  cases place with
  | filters members node =>
      obtain ⟨hf, hn⟩ := h
      let others := members.before ++ members.after
      refine (node.sendsLeaf _ hn).of_append []
        (sendMember (sendInclusion (KeyPath.ofRoot "populate")) "populate" others ++
          (Intent.ofMembers others).value.lowerOthers) fun leaf => ?_
      rw [LeafPlace.members, Intent.lower_eq_append, Intent.lowerOf_filters_ofMembers,
        Intent.lowerOf_populate_ofMembers, sendMember_fill_self hf,
        sendMember_fill_of_ne members (by decide), lowerOthers_fill members (.inl rfl),
        List.nil_append, List.append_assoc]
      rfl
  | populate members place =>
      obtain ⟨hf, hp⟩ := h
      let others := members.before ++ members.after
      refine (place.sendsLeaf _ hp).of_append
        (sendMember (sendFilters (KeyPath.ofRoot "filters")) "filters" others)
        (Intent.ofMembers others).value.lowerOthers fun leaf => ?_
      rw [LeafPlace.members, Intent.lower_eq_append, Intent.lowerOf_filters_ofMembers,
        Intent.lowerOf_populate_ofMembers, sendMember_fill_self hf,
        sendMember_fill_of_ne members (by decide), lowerOthers_fill members (.inr rfl)]

end BracketQuery
