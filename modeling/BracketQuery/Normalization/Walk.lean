import BracketQuery.Calendar
import BracketQuery.Intent
import BracketQuery.Normalization.Options
import BracketQuery.Normalization.Report
import BracketQuery.Traced
import BracketQuery.Wire.Lowering

/-!
Normalization of filter trees. Two rules apply: the comparisons of the type field with `$in` and a
list, or `$eq` and one value, keep only known codes in canonical form; every other string that is a
calendar date becomes the instant at which the day begins.
-/

namespace BracketQuery.Normalization

/-- A result with the changes that led to it. -/
abbrev Changed (α : Type) := Traced Change α

/-- The value with a calendar date expanded. -/
def scalar (options : Options) (value : Scalar) : Changed Scalar :=
  match value with
  | .string text =>
    match Calendar.expand? text with
    | some instant =>
      if options.expandDates then do
        Traced.note .expandedDate
        pure (.string instant)
      else pure value
    | none => pure value
  | _ => pure value

/-- The values of a list with calendar dates expanded. -/
def scalars (options : Options) : List Scalar → Changed (List Scalar)
  | [] => pure []
  | value :: rest => do
    let head ← scalar options value
    let tail ← scalars options rest
    pure (head :: tail)

/-- The operand with calendar dates expanded. -/
def operand (options : Options) : Operand → Changed Operand
  | .scalar value => do
    let value ← scalar options value
    pure (.scalar value)
  | .list values => do
    let values ← scalars options values
    pure (.list values)

/-- The canonical form of a type code of the operator at a path, if the code is known. -/
def typeCode (options : Options) (path : KeyPath) (value : Scalar) : Changed (Option Scalar) :=
  match value.string?.bind options.typeCodes.canonicalize? with
  | some code => do
    if value ≠ .string code then Traced.note .canonicalizedCode
    pure (some (.string code))
  | none => do
    Traced.note (.dropped path value.wireText)
    pure none

/-- A comparison of the type field at a path, if anything is left of it. -/
def typeComparison (options : Options) (path : KeyPath) (comparison : Operator × Operand) :
    Changed (Option (Operator × Operand)) :=
  let path := path.child comparison.1.spelling
  match comparison with
  | (.isIn, .list values) => do
    let codes ← Traced.filterMap (typeCode options path) values
    if codes.isEmpty then Traced.note (.emptied path)
    pure (some (.isIn, .list codes))
  | (.eq, .scalar value) => do
    let code ← typeCode options path value
    pure (code.map fun code => (.eq, .scalar code))
  | (operator, value) => do
    let value ← operand options value
    pure (some (operator, value))

/-- A comparison of any other field. -/
def comparison (options : Options) (comparison : Operator × Operand) :
    Changed (Option (Operator × Operand)) := do
  let value ← operand options comparison.2
  pure (some (comparison.1, value))

mutual

/-- The condition of a key at its path. -/
def filterValue (options : Options) (path : KeyPath) (key : String) :
    FilterValue → Changed FilterValue
  | .operators comparisons => do
    let comparisons ← Traced.filterMap
      (if key = options.typeField then typeComparison options path else comparison options)
      comparisons
    pure (.operators comparisons)
  | .nested node => do
    let node ← filterNode options path node
    pure (.nested node)
  | .scalar value => do
    let value ← scalar options value
    pure (.scalar value)
  | .list values => do
    let values ← scalars options values
    pure (.list values)
  | .group members => do
    let members ← groupMembers options path 0 members
    pure (.group members)

/-- The node at a path. -/
def filterNode (options : Options) (path : KeyPath) : FilterNode → Changed FilterNode
  | [] => pure []
  | (key, value) :: rest => do
    let head ← filterValue options (path.child key) key value
    let tail ← filterNode options path rest
    pure ((key, head) :: tail)

/-- The members of a group, the first of which has the given place. -/
def groupMembers (options : Options) (path : KeyPath) (i : Nat) :
    List FilterNode → Changed (List FilterNode)
  | [] => pure []
  | node :: rest => do
    let head ← filterNode options (path.index i) node
    let tail ← groupMembers options path (i + 1) rest
    pure (head :: tail)

end

/-- The filters of a relation, if it has any. -/
def filters (options : Options) (path : KeyPath) : Option FilterNode → Changed (Option FilterNode)
  | none => pure none
  | some node => do
    let node ← filterNode options path node
    pure (some node)

mutual

/-- The inclusion at a path, with the filters of its relations normalized. -/
def populate (options : Options) (path : KeyPath) : Populate → Changed Populate
  | .shaped entries => do
    let entries ← relations options path entries
    pure (.shaped entries)
  | .all => pure .all
  | .relation name => pure (.relation name)
  | .relations names => pure (.relations names)

/-- Relations below a path. -/
def relations (options : Options) (path : KeyPath) :
    List (String × RelationPopulate) → Changed (List (String × RelationPopulate))
  | [] => pure []
  | (name, inclusion) :: rest => do
    let head ← relation options (path.child name) inclusion
    let tail ← relations options path rest
    pure ((name, head) :: tail)

/-- One relation. -/
def relation (options : Options) (path : KeyPath) : RelationPopulate → Changed RelationPopulate
  | .shape value => do
    let value ← shape options path value
    pure (.shape value)
  | .flag included => pure (.flag included)
  | .name value => pure (.name value)

/-- What is included of a relation: first its own relations, then its filters. -/
def shape (options : Options) (path : KeyPath) : PopulateShape → Changed PopulateShape
  | .mk fields inner sort conditions => do
    let inner ← optionalPopulate options (path.child "populate") inner
    let conditions ← filters options (path.child "filters") conditions
    pure (.mk fields inner sort conditions)

/-- An inclusion that may be absent. -/
def optionalPopulate (options : Options) (path : KeyPath) :
    Option Populate → Changed (Option Populate)
  | none => pure none
  | some value => do
    let value ← populate options path value
    pure (some value)

end

/-- An intent with its own filters and those of every relation normalized. -/
def intent (options : Options) (intent : Intent) : Changed Intent := do
  let conditions ← filters options (KeyPath.ofRoot "filters") intent.filters
  let included ← optionalPopulate options (KeyPath.ofRoot "populate") intent.populate
  pure { intent with filters := conditions, populate := included }

end BracketQuery.Normalization

namespace BracketQuery

/-- A normalized filter tree and what was done to it. -/
def FilterNode.normalize (options : Normalization.Options) (node : FilterNode) :
    FilterNode × Normalization.Report :=
  let result := Normalization.filterNode options (KeyPath.ofRoot "filters") node
  (result.value, ⟨result.events⟩)

namespace Intent

/-- A normalized intent and what was done to it. -/
def normalize (options : Normalization.Options) (intent : Intent) : Intent × Normalization.Report :=
  let result := Normalization.intent options intent
  (result.value, ⟨result.events⟩)

/-- The query string of a normalized intent, with the intent and what was done to it. -/
def compileNormalized (options : Normalization.Options) (intent : Intent) :
    String × Intent × Normalization.Report :=
  let (normalized, report) := intent.normalize options
  (normalized.compile, normalized, report)

end Intent

end BracketQuery
