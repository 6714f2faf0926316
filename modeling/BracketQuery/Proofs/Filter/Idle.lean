import BracketQuery.Proofs.Wire.Part

/-!
Filter trees that send nothing, at whatever path: those that hold no values, because every list in
them is empty and every branch ends in such a list or in an empty node.
-/

namespace BracketQuery

/-- Whether an operand holds no values. -/
def Operand.isIdle : Operand → Bool
  | .scalar _ => false
  | .list values => values.isEmpty

mutual

def FilterValue.isIdle : FilterValue → Bool
  | .operators comparisons => comparisons.all fun c => c.2.isIdle
  | .nested node => FilterNode.isIdle node
  | .scalar _ => false
  | .list values => values.isEmpty
  | .group members => FilterNode.areIdle members

/-- Whether a node holds no values. -/
def FilterNode.isIdle : FilterNode → Bool
  | [] => true
  | (_, value) :: rest => FilterValue.isIdle value && FilterNode.isIdle rest

def FilterNode.areIdle : List FilterNode → Bool
  | [] => true
  | node :: rest => FilterNode.isIdle node && FilterNode.areIdle rest

end

theorem Operand.lower_eq_nil_iff {path : KeyPath} {operand : Operand} :
    operand.lower path = [] ↔ operand.isIdle = true := by
  cases operand <;> simp [Operand.lower, Operand.isIdle, lowerIndexed_eq_nil_iff]

mutual

theorem FilterValue.lower_eq_nil_iff (path : KeyPath) : (value : FilterValue) →
    (value.lower path = [] ↔ value.isIdle = true)
  | .operators comparisons => by
      simp [FilterValue.lower, FilterValue.isIdle, Operand.lower_eq_nil_iff]
  | .nested node => FilterNode.lower_eq_nil_iff path node
  | .scalar _ => by simp [FilterValue.lower, FilterValue.isIdle]
  | .list _ => by simp [FilterValue.lower, FilterValue.isIdle, lowerIndexed_eq_nil_iff]
  | .group members => FilterNode.lowerMembers_eq_nil_iff path 0 members

/-- Where a node stands makes no difference to whether it sends something. -/
theorem FilterNode.lower_eq_nil_iff (path : KeyPath) : (node : FilterNode) →
    (FilterNode.lower path node = [] ↔ FilterNode.isIdle node = true)
  | [] => by simp [FilterNode.lower, FilterNode.isIdle]
  | (key, value) :: rest => by
      rw [FilterNode.lower, FilterNode.isIdle, List.append_eq_nil_iff, Bool.and_eq_true,
        FilterValue.lower_eq_nil_iff (path.child key) value, FilterNode.lower_eq_nil_iff path rest]

theorem FilterNode.lowerMembers_eq_nil_iff (path : KeyPath) (i : Nat) :
    (members : List FilterNode) →
      (FilterNode.lowerMembers path i members = [] ↔ FilterNode.areIdle members = true)
  | [] => by simp [FilterNode.lowerMembers, FilterNode.areIdle]
  | node :: rest => by
      rw [FilterNode.lowerMembers, FilterNode.areIdle, List.append_eq_nil_iff, Bool.and_eq_true,
        FilterNode.lower_eq_nil_iff (path.index i) node,
        FilterNode.lowerMembers_eq_nil_iff path (i + 1) rest]

end

end BracketQuery
