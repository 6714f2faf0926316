import BracketQuery.Proofs.Document.Sending

/-!
Flattening: the leaves of a document with the bracket paths that lead to them, whatever its objects
and lists stand for. A filter document of which decoding passes nothing over sends its leaves, so it
does not matter there which objects are taken for comparisons and which lists for groups.
-/

namespace BracketQuery.Json

/-! ## Leaves -/

/-- The text of a number: the digits of an integer of 64 bits, else the text of the nearest
double. -/
def Number.leafText : Number → String
  | .integer n => if -2 ^ 63 ≤ n ∧ n < 2 ^ 63 then toString n else (Binary64.ofInt n).wireText
  | .float x => x.wireText

mutual

/-- The leaves of a document at a path: under a member's name what the member holds, under its
place, counted from zero, what an element holds, and the text of a single value. -/
def flatten (path : KeyPath) : Json → List (String × String)
  | .null => []
  | .boolean value => [(path.text, toString value)]
  | .number value => [(path.text, value.leafText)]
  | .string value => [(path.text, value)]
  | .array elements => flattenElements path 0 elements
  | .object members => flattenMembers path members

def flattenMembers (path : KeyPath) : List (String × Json) → List (String × String)
  | [] => []
  | (name, value) :: rest => flatten (path.child name) value ++ flattenMembers path rest

/-- The leaves of elements, the first of which has the given place. -/
def flattenElements (path : KeyPath) (i : Nat) : List Json → List (String × String)
  | [] => []
  | element :: rest => flatten (path.index i) element ++ flattenElements path (i + 1) rest

end

/-! ## Lossless documents -/

/-- A string, a number or a truth value. -/
def IsScalar : Json → Prop
  | .boolean _ | .number _ | .string _ => True
  | .null | .array _ | .object _ => False

/-- A single value, or a list of single values. -/
def IsOperand : Json → Prop
  | .array elements => ∀ element ∈ elements, element.IsScalar
  | value => value.IsScalar

mutual

/-- A document of which nothing is passed over under a key: an object that is taken for comparisons
holds operands, a list that is taken for a group holds objects, any other list holds single values,
and there is no null. -/
def IsLosslessUnder (key : String) : Json → Prop
  | .object members =>
    if isOperatorMap members then ∀ m ∈ members, m.2.IsOperand else LosslessMembers members
  | .array elements =>
    if IsCombinator key then LosslessGroup elements else ∀ element ∈ elements, element.IsScalar
  | value => value.IsScalar

def LosslessMembers : List (String × Json) → Prop
  | [] => True
  | (key, value) :: rest => value.IsLosslessUnder key ∧ LosslessMembers rest

def LosslessGroup : List Json → Prop
  | [] => True
  | .object members :: rest => LosslessMembers members ∧ LosslessGroup rest
  | _ :: _ => False

end

/-- A filter document of which nothing is passed over. -/
def IsLossless : Json → Prop
  | .object members => LosslessMembers members
  | _ => False

/-! ## Single values -/

theorem Number.wireText_ofNumber (value : Number) :
    (Scalar.ofNumber value).wireText = value.leafText := by
  cases value with
  | float x => rfl
  | integer n =>
      rw [Scalar.ofNumber, Number.leafText, Integer.toInt64?]
      by_cases h : -2 ^ 63 ≤ n ∧ n < 2 ^ 63
      · rw [if_pos h, if_pos h, Scalar.wireText, Integer.text, Int64.toInt_ofInt_of_le h.1 h.2]
      · rw [if_neg h, if_neg h, Scalar.wireText]

/-- Decoding takes the same documents for single values, and they are sent as the text of the leaf. -/
theorem isScalar_iff {value : Json} :
    value.IsScalar ↔ ∃ scalar, Scalar.ofJson? value = some scalar ∧
      ∀ path, flatten path value = [(path.text, scalar.wireText)] := by
  cases value with
  | null | array _ | object _ => simp [IsScalar, Scalar.ofJson?]
  | boolean _ | string _ => simp [IsScalar, Scalar.ofJson?, flatten, Scalar.wireText]
  | number value => simp [IsScalar, Scalar.ofJson?, flatten, value.wireText_ofNumber]

/-! ## What is sent -/

/-- A leaf as a parameter of the filters. -/
def leafParam (leaf : String × String) : Param := ⟨.filters, leaf.1, leaf.2⟩

theorem sendOperand_of_isScalar (path : KeyPath) {value : Json} (h : value.IsScalar) :
    value.sendOperand path = (flatten path value).map leafParam := by
  obtain ⟨scalar, hs, hf⟩ := isScalar_iff.mp h
  rw [sendOperand_of_scalar path hs, hf]
  rfl

theorem flattenElements_of_isScalar (path : KeyPath) (elements : List Json) :
    ∀ i : Nat, (∀ element ∈ elements, element.IsScalar) →
      flattenElements path i elements = (elements.filterMap Scalar.ofJson?).mapIdx
        fun j scalar => ((path.index (i + j)).text, scalar.wireText) := by
  induction elements with
  | nil => exact fun _ _ => rfl
  | cons element rest ih =>
      intro i h
      obtain ⟨he, hr⟩ := List.forall_mem_cons.mp h
      obtain ⟨scalar, hs, hf⟩ := isScalar_iff.mp he
      rw [flattenElements, hf, ih (i + 1) hr, List.filterMap_cons_some hs, List.mapIdx_cons]
      simp only [List.singleton_append, Nat.add_zero, Nat.add_assoc, Nat.add_comm 1]

theorem sendScalars_of_isScalar (path : KeyPath) {elements : List Json}
    (h : ∀ element ∈ elements, element.IsScalar) :
    sendScalars path elements = (flattenElements path 0 elements).map leafParam := by
  rw [flattenElements_of_isScalar path elements 0 h, sendScalars, lowerIndexed]
  apply List.ext_getElem
  · simp
  · intro i _ _
    simp [leafParam]

theorem sendOperand_of_isOperand (path : KeyPath) {value : Json} (h : value.IsOperand) :
    value.sendOperand path = (flatten path value).map leafParam := by
  cases value with
  | array elements => exact sendScalars_of_isScalar path h
  | _ => exact sendOperand_of_isScalar path h

theorem sendOperands_of_isOperand (path : KeyPath) (members : List (String × Json))
    (h : ∀ m ∈ members, m.2.IsOperand) :
    members.flatMap (fun m => m.2.sendOperand (path.child m.1)) =
      (flattenMembers path members).map leafParam := by
  induction members with
  | nil => rfl
  | cons member rest ih =>
      obtain ⟨hm, hr⟩ := List.forall_mem_cons.mp h
      rw [List.flatMap_cons, flattenMembers, List.map_append, sendOperand_of_isOperand _ hm, ih hr]

mutual

theorem sendValue_of_lossless (path : KeyPath) (key : String) : (value : Json) →
    value.IsLosslessUnder key → value.sendValue path key = (flatten path value).map leafParam
  | .object members, h => by
      rw [sendValue_object, flatten]
      simp only [IsLosslessUnder] at h
      split at h
      · rename_i ho
        rw [if_pos ho]
        exact sendOperands_of_isOperand path members h
      · rename_i ho
        rw [if_neg ho]
        exact sendMembers_of_lossless path members h
  | .array elements, h => by
      rw [sendValue_array, flatten]
      simp only [IsLosslessUnder] at h
      split at h
      · rename_i hk
        rw [if_pos hk]
        exact sendGroup_of_lossless path key elements 0 h
      · rename_i hk
        rw [if_neg hk]
        exact sendScalars_of_isScalar path h
  | .null, h => nomatch h
  | .boolean _, h | .number _, h | .string _, h => by
      rw [sendValue_of_scalar path key rfl]
      exact sendOperand_of_isScalar path h

theorem sendMembers_of_lossless (path : KeyPath) : (members : List (String × Json)) →
    LosslessMembers members →
      sendMembers path members = (flattenMembers path members).map leafParam
  | [], _ => rfl
  | (key, value) :: rest, ⟨hv, hr⟩ => by
      rw [sendMembers_cons, flattenMembers, List.map_append,
        sendValue_of_lossless (path.child key) key value hv, sendMembers_of_lossless path rest hr]

theorem sendGroup_of_lossless (path : KeyPath) (key : String) : (elements : List Json) →
    (i : Nat) → LosslessGroup elements →
      sendGroup path i key elements = (flattenElements path i elements).map leafParam
  | [], _, _ => rfl
  | .object members :: rest, i, ⟨hm, hr⟩ => by
      rw [sendGroup_object, flattenElements, flatten, List.map_append,
        sendMembers_of_lossless (path.index i) members hm,
        sendGroup_of_lossless path key rest (i + 1) hr]

end

end BracketQuery.Json

namespace BracketQuery

/-- A lossless filter document, decoded and lowered, sends exactly the leaves of its flattening, in
the order of the document. -/
theorem FilterNode.lower_of_isLossless (path : KeyPath) {document : Json}
    (h : document.IsLossless) :
    (FilterNode.ofJson? document).value.map (FilterNode.lower path) =
      some ((document.flatten path).map Json.leafParam) := by
  cases document with
  | object members =>
      rw [FilterNode.value_ofJson?_object, Option.map_some]
      exact congrArg some (Json.sendMembers_of_lossless path members h)
  | _ => exact h.elim

/-- Every kind of condition, with known operators where a field is expected, unknown ones among the
comparisons, and the keys of groups as operators. -/
theorem FilterNode.lower_nested_groups :
    let half := Binary64.ofRatio false 1 2
    let document := Json.object [("$eq", .number (.integer 1)),
      ("customer", .object [("$ne", .string "x"), ("$like", .array [.boolean true]),
        ("$and", .array [.string "a", .string "b"])]),
      ("$or", .array [.object [("$gt", .array [.number (.integer 5), .number (.float half)]),
        ("a", .object [("b", .object [("$in", .array [])])])], .object [("$not", .object [])]])]
    document.IsLossless ∧
      (FilterNode.ofJson? document).value.map
          (fun node => (FilterNode.lower (KeyPath.ofRoot "filters") node).pairs) =
        some [("filters[$eq]", "1"), ("filters[customer][$ne]", "x"),
          ("filters[customer][$like][0]", "true"), ("filters[customer][$and][0]", "a"),
          ("filters[customer][$and][1]", "b"), ("filters[$or][0][$gt][0]", "5"),
          ("filters[$or][0][$gt][1]", "0.5")] := by
  intro half document
  have h : document.IsLossless := by
    simp [document, Json.IsLossless, Json.LosslessMembers, Json.IsLosslessUnder, Json.LosslessGroup,
      Json.IsOperand, Json.IsScalar, isOperatorMap, IsCombinator, allOfKey,
      anyOfKey, Operator.isKnown, Operator.parse?, Operator.known, Operator.spelling]
  have hl := FilterNode.lower_of_isLossless (KeyPath.ofRoot "filters") h
  refine ⟨h, ?_⟩
  have hp := congrArg (Option.map Params.pairs) hl
  rw [Option.map_map, Option.map_some] at hp
  refine hp.trans ?_
  decide +kernel

end BracketQuery
