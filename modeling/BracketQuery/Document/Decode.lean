import BracketQuery.Document.Omission
import BracketQuery.Intent
import BracketQuery.Json.Basic
import BracketQuery.Text.Blank
import BracketQuery.Traced

/-!
Intents from JSON documents. Decoding is lenient: what has the wrong shape is left out and, with few
exceptions, noted; only a document that is no object is refused. The one rule that looks at keys to
tell shapes apart is that an object with a known operator among its keys holds comparisons.
-/

namespace BracketQuery

/-- A result with the parts of the document that were left out. -/
abbrev Decoded (α : Type) := Traced Omission α

/-- The value of a JSON number: an integer if it fits, else the nearest double. -/
def Scalar.ofNumber : Json.Number → Scalar
  | .integer n =>
    match Integer.toInt64? n with
    | some n => .integer n
    | none => .float (Binary64.ofInt n)
  | .float x => .float x

/-- The single value that a document is, if it is one. -/
def Scalar.ofJson? : Json → Option Scalar
  | .string value => some (.string value)
  | .boolean value => some (.boolean value)
  | .number value => some (Scalar.ofNumber value)
  | .null | .array _ | .object _ => none

/-- The single values among the elements of a list under `field`. -/
def Scalar.listOfJson (field : String) (elements : List Json) : Decoded (List Scalar) :=
  Traced.filterMap (fun element =>
    match Scalar.ofJson? element with
    | some value => pure (some value)
    | none => do
      Traced.note (.elementOfList field)
      pure none) elements

/-- Whether an object holds comparisons: one of its keys is a known operator. -/
def isOperatorMap (members : List (String × Json)) : Bool :=
  members.any fun member => Operator.isKnown member.1

/-- The comparison of `field` that a member of an object of comparisons makes. -/
def comparisonOfJson? (field : String) (member : String × Json) :
    Decoded (Option (Operator × Operand)) :=
  let operator := Operator.ofSpelling member.1
  match member.2 with
  | .array elements => do
    let values ← Scalar.listOfJson field elements
    pure (some (operator, .list values))
  | .object _ => do
    Traced.note (.objectOperand field member.1)
    pure none
  | value => pure ((Scalar.ofJson? value).map fun value => (operator, .scalar value))

mutual

/-- The condition that a document states under `key`, if any. -/
def FilterValue.ofJson? (key : String) : Json → Decoded (Option FilterValue)
  | .null => pure none
  | .object members =>
    if isOperatorMap members then do
      let comparisons ← Traced.filterMap (comparisonOfJson? key) members
      pure (some (.operators comparisons))
    else do
      let node ← FilterNode.ofMembers members
      pure (some (.nested node))
  | .array elements =>
    if key = allOfKey ∨ key = anyOfKey then do
      let members ← FilterNode.groupOfJson key elements
      pure (some (.group members))
    else do
      let values ← Scalar.listOfJson key elements
      pure (some (.list values))
  | value => pure ((Scalar.ofJson? value).map .scalar)

/-- The node that the members of an object state. -/
def FilterNode.ofMembers : List (String × Json) → Decoded FilterNode
  | [] => pure []
  | (key, value) :: rest => do
    let head ← FilterValue.ofJson? key value
    let tail ← FilterNode.ofMembers rest
    pure (match head with
      | some value => (key, value) :: tail
      | none => tail)

/-- The nodes among the elements of a list under the combinator `key`. -/
def FilterNode.groupOfJson (key : String) :
    List Json → Decoded (List FilterNode)
  | [] => pure []
  | .object members :: rest => do
    let head ← FilterNode.ofMembers members
    let tail ← FilterNode.groupOfJson key rest
    pure (head :: tail)
  | .null :: rest => do
    Traced.note (.memberOfGroup key)
    FilterNode.groupOfJson key rest
  | element :: rest => do
    Traced.note (.filtersOfKind element.kind)
    Traced.note (.memberOfGroup key)
    FilterNode.groupOfJson key rest

end

/-- The filter tree that a document is, if it is an object. -/
def FilterNode.ofJson? : Json → Decoded (Option FilterNode)
  | .object members => do
    let node ← FilterNode.ofMembers members
    pure (some node)
  | .null => pure none
  | value => do
    Traced.note (.filtersOfKind value.kind)
    pure none

/-- The text that a document is, if it is one. -/
def textOfJson? : Json → Option String
  | .string value => some value
  | _ => none

/-- A text as a list of one, or the texts of a list. -/
def textsOfJson : Json → List String
  | .string value => [value]
  | .array elements => elements.filterMap textOfJson?
  | _ => []

/-- The 64-bit integer that a number or a text is, if it is one. A double of magnitude `2 ^ 63`
counts as one, and is taken for the nearest. -/
def integerOfJson? : Json → Option Int64
  | .number (.integer n) =>
    match Integer.toInt64? n with
    | some n => some n
    | none => integerOfFloat? (Binary64.ofInt n)
  | .number (.float x) => integerOfFloat? x
  | .string value => Integer.ofText? (Text.trim value.toList)
  | _ => none
where
  /-- The 64-bit integer nearest to an integral double of magnitude at most `2 ^ 63`. -/
  integerOfFloat? (x : Binary64) : Option Int64 :=
    match x.toInt? with
    | some n =>
      if n.natAbs ≤ 2 ^ 63 then some (Int64.ofInt (max (-2 ^ 63) (min n (2 ^ 63 - 1)))) else none
    | none => none

/-- Look up a member and decode its value. -/
def decodeMember {α : Type} (members : List (String × Json)) (name : String)
    (decode : Json → Decoded (Option α)) : Decoded (Option α) :=
  match Json.find? name members with
  | some value => decode value
  | none => pure none

/-- The texts of a member. -/
def textsOfMember (members : List (String × Json)) (name : String) : List String :=
  ((Json.find? name members).map textsOfJson).getD []

/-- The text of a member. -/
def textOfMember? (members : List (String × Json)) (name : String) : Option String :=
  (Json.find? name members).bind textOfJson?

/-- The pagination that a document states, if it states a member of it. -/
def Pagination.ofJson? : Json → Option Pagination
  | .object members =>
    let member (name : String) := (Json.find? name members).bind integerOfJson?
    let pagination : Pagination :=
      ⟨member "page", member "pageSize", member "start", member "limit"⟩
    if pagination.isEmpty then none else some pagination
  | _ => none

/-- The members of an object that says what to include of a relation. -/
def shapeKeys : List String := ["fields", "populate", "sort", "filters"]

/-- Note each key that is not among the known ones. -/
def noteUnknown (known : List String) (omission : String → Omission) :
    List (String × Json) → Decoded Unit
  | [] => pure ()
  | (key, _) :: rest => do
    if key ∉ known then Traced.note (omission key)
    noteUnknown known omission rest

mutual

/-- The inclusion that a document states, if any. -/
def Populate.ofJson? : Json → Decoded (Option Populate)
  | .boolean true => pure (some .all)
  | .string name => pure (if name = "" then none else some (.relation name))
  | .array elements => pure (some (.relations (elements.filterMap textOfJson?)))
  | .object members => do
    let relations ← Populate.relationsOfMembers members
    pure (some (.shaped relations))
  | .null | .boolean false | .number _ => pure none

/-- The relations that the members of an object include. -/
def Populate.relationsOfMembers :
    List (String × Json) → Decoded (List (String × RelationPopulate))
  | [] => pure []
  | (relation, value) :: rest => do
    let head ← RelationPopulate.ofJson? relation value
    let tail ← Populate.relationsOfMembers rest
    pure (match head with
      | some inclusion => (relation, inclusion) :: tail
      | none => tail)

/-- The way in which a document includes a relation, if it does. -/
def RelationPopulate.ofJson? (relation : String) : Json → Decoded (Option RelationPopulate)
  | .boolean included => pure (some (.flag included))
  | .string name => pure (some (.name name))
  | .object members => do
    noteUnknown shapeKeys (.unknownShapeKey relation) members
    let populate ← Populate.ofMember members
    let filters ← decodeMember members "filters" FilterNode.ofJson?
    pure (some (.shape
      (.mk (textsOfMember members "fields") populate (textsOfMember members "sort") filters)))
  | value => do
    Traced.note (.relationOfKind relation value.kind)
    pure none

/-- The inclusion that the first member named `populate` states, if any. -/
def Populate.ofMember : List (String × Json) → Decoded (Option Populate)
  | [] => pure none
  | (name, value) :: rest =>
    if name = "populate" then Populate.ofJson? value else Populate.ofMember rest

end

namespace Intent

/-- The members of an object that states an intent. -/
def keys : List String :=
  ["filters", "populate", "sort", "pagination", "fields", "locale", "publicationState", "q"]

/-- The intent that the members of an object state. -/
def ofMembers (members : List (String × Json)) : Decoded Intent := do
  noteUnknown keys .unknownKey members
  let filters ← decodeMember members "filters" FilterNode.ofJson?
  let populate ← decodeMember members "populate" Populate.ofJson?
  pure {
    filters
    populate
    sort := textsOfMember members "sort"
    pagination := (Json.find? "pagination" members).bind Pagination.ofJson?
    fields := textsOfMember members "fields"
    locale := textOfMember? members "locale"
    publicationState := textOfMember? members "publicationState"
    search := textOfMember? members "q"
  }

/-- The intent that a document states; a document that is no object is refused with its kind. -/
def ofJson? : Json → Except String (Decoded Intent)
  | .object members => .ok (ofMembers members)
  | value => .error value.kind

end Intent

end BracketQuery
