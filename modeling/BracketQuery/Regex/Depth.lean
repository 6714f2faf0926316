import BracketQuery.Regex.Error

/-!
How deep the parts of a regular expression stand in each other.
-/

namespace BracketQuery.Regex

/-- Refuse a part that stands in too many others. -/
def checkDepth (depth : Nat) (span : Span) : Except SyntaxError Unit :=
  if maxDepth ≤ depth then .error ⟨.tooDeep, span, none⟩ else .ok ()

mutual

/-- Refuse what stands too deep in a set that stands in `depth` other parts. -/
def ClassSet.checkDepth (depth : Nat) : ClassSet → Except SyntaxError Unit
  | .union _ [] => .ok ()
  | .union _ [item] => item.checkDepth depth
  | .union span (item :: next :: items) => do
    Regex.checkDepth depth span
    item.checkDepth (depth + 1)
    next.checkDepth (depth + 1)
    checkItemsDepth (depth + 1) items
  | .combination span _ left right => do
    Regex.checkDepth depth span
    left.checkDepth (depth + 1)
    right.checkDepth (depth + 1)

/-- Refuse what stands too deep in a part of a class. -/
def ClassItem.checkDepth (depth : Nat) : ClassItem → Except SyntaxError Unit
  | .bracketed span _ set => do
    Regex.checkDepth depth span
    set.checkDepth (depth + 1)
  | .atom .. | .range .. | .ascii .. => .ok ()

/-- Refuse what stands too deep in several parts of a class. -/
def checkItemsDepth (depth : Nat) : List ClassItem → Except SyntaxError Unit
  | [] => .ok ()
  | item :: items => do
    item.checkDepth depth
    checkItemsDepth depth items

end

mutual

/-- Refuse what stands too deep in an expression that stands in `depth` others. -/
def Node.checkDepth (depth : Nat) : Node → Except SyntaxError Unit
  | .empty _ | .flags .. | .atom .. => .ok ()
  | .bracketed span _ set => do
    Regex.checkDepth depth span
    set.checkDepth (depth + 1)
  | .repetition span node .. | .group span _ node => do
    Regex.checkDepth depth span
    node.checkDepth (depth + 1)
  | .sequence span nodes | .choice span nodes => do
    Regex.checkDepth depth span
    checkNodesDepth (depth + 1) nodes

/-- Refuse what stands too deep in several expressions. -/
def checkNodesDepth (depth : Nat) : List Node → Except SyntaxError Unit
  | [] => .ok ()
  | node :: nodes => do
    node.checkDepth depth
    checkNodesDepth depth nodes

end

end BracketQuery.Regex
